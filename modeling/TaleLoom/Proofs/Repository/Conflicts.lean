import Mathlib.Data.List.Perm.Subperm
import TaleLoom.Proofs.Act
import TaleLoom.Proofs.Repository.Keywords
/-!
Conflicts of keywords. An item is in the group of the first of its keywords that occurs in a text, so
two items are in one group exactly where these first keywords have the same folded form
(`Repository.together_iff`); sharing a keyword further on is not enough. What the check of a new item
reports beforehand is `Repository.conflictsWith_eq`: it leaves out blank keywords and items that are kept
under the key of the new one, and nothing else.
-/

namespace TaleLoom

open Text

/-- Texts are read one by one. -/
theorem mapM_texts {α : Type} {f : Value → Except Fault α} {g : String → α}
    (h : ∀ s, f (.text s) = .ok (g s)) (texts : List String) :
    (texts.map Value.text).mapM f = .ok (texts.map g) := by
  rw [mapM_ok_iff, List.forall₂_map_left_iff, List.forall₂_map_right_iff]
  exact List.forall₂_same.2 fun s _ => h s

namespace Item

/-- The item has a keyword of a folded form that is not empty and occurs in the text. -/
def Bears (item : Item) (text form : String) : Prop :=
  form ≠ "" ∧ form.toList <:+: (fold text).toList ∧
    ∃ keyword ∈ item.spellings, fold keyword = form

def GoesBy (item : Item) (keyword : String) : Prop := item.form? keyword = some (fold keyword)

def claimed (item : Item) : List String :=
  (item.spellings.filter fun keyword => !(trim keyword.toList).isEmpty).map fold

def claimsOneOf (item : Item) (forms : List String) : Bool :=
  (item.spellings.map fold).any forms.contains

variable {item : Item} {text form keyword : String}

theorem form?_eq_some_iff :
    item.form? text = some form ↔ ∃ keyword, item.mention? text = some keyword ∧
      fold keyword = form :=
  Option.map_eq_some_iff

/-- An item goes by a keyword of its own. -/
theorem mem_spellings_of_mention? (h : item.mention? text = some keyword) :
    keyword ∈ item.spellings :=
  List.mem_of_find?_eq_some h

/-- An item with a keyword that occurs in a text goes by some keyword there. -/
theorem exists_form?_of_bears (h : item.Bears text form) : ∃ first, item.form? text = some first := by
  obtain ⟨hform, hoccurs, keyword, hkeyword, rfl⟩ := h
  have hsome : (item.mention? text).isSome := by
    apply List.find?_isSome.2
    exact ⟨keyword, hkeyword, decide_eq_true ⟨hform, hoccurs⟩⟩
  obtain ⟨first, hfirst⟩ := Option.isSome_iff_exists.1 hsome
  exact ⟨fold first, form?_eq_some_iff.2 ⟨first, hfirst, rfl⟩⟩

/-- An item that goes by a keyword in some text goes by it in the keyword alone: whatever occurs in the
keyword occurs in the text too, so no keyword before it does. -/
theorem goesBy_of_form? (h : item.form? text = some (fold keyword)) : item.GoesBy keyword := by
  obtain ⟨first, hfirst, hform⟩ := form?_eq_some_iff.1 h
  obtain ⟨hfound, before, after, hsplit, hbefore⟩ := List.find?_eq_some_iff_append.1 hfirst
  have hoccurs := of_decide_eq_true hfound
  have hinside : (fold keyword).toList <:+: (fold text).toList := hform ▸ hoccurs.2
  apply form?_eq_some_iff.2
  refine ⟨first, List.find?_eq_some_iff_append.2 ⟨?_, before, after, hsplit, ?_⟩, hform⟩
  · apply decide_eq_true
    refine ⟨hoccurs.1, ?_⟩
    rw [hform]
  · intro other hother
    have hmissing := hbefore other hother
    rw [Bool.not_eq_true', decide_eq_false_iff_not] at hmissing ⊢
    intro hthere
    exact hmissing ⟨hthere.1, hthere.2.trans hinside⟩

theorem mem_claimed_iff : form ∈ item.claimed ↔
    ∃ keyword ∈ item.spellings, trim keyword.toList ≠ [] ∧ fold keyword = form := by
  simp only [claimed, List.mem_map, List.mem_filter, Bool.not_eq_true', List.isEmpty_eq_false_iff,
    and_assoc]

theorem claimsOneOf_iff {forms : List String} :
    item.claimsOneOf forms = true ↔ ∃ keyword ∈ item.spellings, fold keyword ∈ forms := by
  simp [claimsOneOf]

/-- Keywords that are all texts are their spellings. -/
theorem Textual.keywords_eq (h : item.Textual) : item.keywords = item.spellings.map Value.text := by
  have hall := h.keywords
  rw [spellings]
  generalize item.keywords = keywords at hall ⊢
  induction keywords with
  | nil => rfl
  | cons v rest ih =>
    obtain ⟨s, rfl⟩ := hall v List.mem_cons_self
    have hrest := ih fun w hw => hall w (List.mem_cons_of_mem _ hw)
    simp only [List.filterMap_cons, List.map_cons]
    rw [← hrest]

def spelled (name : String) (keywords : List String) : Item :=
  { named (.text name) 0 with keywords := keywords.map .text }

theorem textual_spelled (name : String) (keywords : List String) : (spelled name keywords).Textual where
  keywords v hv := by
    obtain ⟨s, -, rfl⟩ := List.mem_map.1 hv
    exact ⟨s, rfl⟩
  content := ⟨"", rfl⟩

end Item

/-- Items that are put under keys of their own stay as they are, in their order. -/
theorem ItemCollection.values_keyList {items : List Item} {done m : Keyed String Item}
    {desk after : Desk} (h : keyList done items desk = .ok m after) :
    Keyed.values m = Keyed.values done ++ items := by
  induction items generalizing done desk with
  | nil =>
    obtain ⟨rfl, -⟩ := EStateM.Result.ok.inj h
    rw [List.append_nil]
  | cons item rest ih =>
    rw [keyList] at h
    obtain ⟨own, start, -, h⟩ := Act.parts_of_bind h
    have hrest {desk : Desk} (h : keyList (done ++ [(freeKey (Keyed.keys done) own, item)]) rest desk =
        .ok m after) : Keyed.values m = Keyed.values done ++ item :: rest := by
      rw [ih h, Keyed.values, List.map_append, List.append_assoc]
      rfl
    dsimp only at h
    split at h
    · obtain ⟨-, warned, -, h⟩ := Act.parts_of_bind h
      exact hrest h
    · exact hrest h

namespace Repository

variable {r existing : Repository} {text : String} {groups : List KeywordGroup} {candidate : Item}

section Together

variable {a b : ScopedItem}

/-- An item is in a group exactly where it goes by the form of the group. -/
theorem Divides.mem_items_iff (h : r.Divides text groups) {group : KeywordGroup}
    (hgroup : group ∈ groups) (ha : a ∈ r.inScope) :
    r.override a ∈ group.items ↔ a.item.form? text = some (fold group.keyword) := by
  have hperm := (h.items group hgroup).mem_iff (a := r.override a)
  constructor
  · intro hmem
    obtain ⟨kept, hkept, hsame⟩ := List.mem_map.1 (hperm.1 hmem)
    have hform := of_decide_eq_true (List.mem_filter.1 hkept).2
    calc a.item.form? text = (r.override a).item.form? text := by rw [override_item]
      _ = (r.override kept).item.form? text := by rw [hsame]
      _ = kept.item.form? text := by rw [override_item]
      _ = some (fold group.keyword) := hform
  · intro hform
    apply hperm.2
    apply List.mem_map_of_mem
    exact List.mem_filter.2 ⟨ha, decide_eq_true hform⟩

/-- Every form that an item goes by has a group. -/
theorem Divides.exists_group (h : r.Divides text groups) (ha : a ∈ r.inScope) {form : String}
    (hform : a.item.form? text = some form) :
    ∃ group ∈ groups, fold group.keyword = form ∧ r.override a ∈ group.items := by
  obtain ⟨keyword, hkeyword, rfl⟩ := Item.form?_eq_some_iff.1 hform
  obtain ⟨group, hgroup, hsame, hmem, -⟩ := h.once a ha keyword hkeyword
  exact ⟨group, hgroup, hsame, hmem⟩

/-- Two items in scope are in one group exactly where they go by the same form. -/
theorem together_iff (h : r.Divides text groups) (ha : a ∈ r.inScope) (hb : b ∈ r.inScope) :
    (∃ group ∈ groups, r.override a ∈ group.items ∧ r.override b ∈ group.items) ↔
      ∃ form, a.item.form? text = some form ∧ b.item.form? text = some form := by
  constructor
  · rintro ⟨group, hgroup, hina, hinb⟩
    exact ⟨fold group.keyword, (h.mem_items_iff hgroup ha).1 hina,
      (h.mem_items_iff hgroup hb).1 hinb⟩
  · rintro ⟨form, hforma, hformb⟩
    obtain ⟨group, hgroup, rfl, hina⟩ := h.exists_group ha hforma
    exact ⟨group, hgroup, hina, (h.mem_items_iff hgroup hb).2 hformb⟩

/-- A group with two different items is a conflict. -/
theorem Divides.hasConflicts (h : r.Divides text groups) {group : KeywordGroup}
    (hgroup : group ∈ groups) (ha : a ∈ r.inScope) (hb : b ∈ r.inScope) (hne : a ≠ b)
    (hina : r.override a ∈ group.items) (hinb : r.override b ∈ group.items) :
    group.hasConflicts = true := by
  let found := goingBy text (fold group.keyword) r.inScope
  have hfounda : a ∈ found :=
    List.mem_filter.2 ⟨ha, decide_eq_true ((h.mem_items_iff hgroup ha).1 hina)⟩
  have hfoundb : b ∈ found :=
    List.mem_filter.2 ⟨hb, decide_eq_true ((h.mem_items_iff hgroup hb).1 hinb)⟩
  have hpair : [a, b].Subperm found := by
    apply List.subperm_of_subset
    · simp [hne]
    · simp [hfounda, hfoundb]
  apply (h.conflicts group hgroup).2
  rw [(h.items group hgroup).length_eq, List.length_map]
  exact hpair.length_le

end Together

/-- Which conflicts are reported. Of any two items in scope that have keywords of one folded form in the
text each is in a group, and they are in one group, which is a conflict, exactly where the first
keywords of theirs that occur in the text have the same folded form. -/
theorem conflict_reported_iff (r : Repository) (text : String)
    (h : ∀ entry ∈ r.inScope, entry.item.Textual) :
    ∃ groups, r.mentioned text = .ok groups ∧ ∀ a ∈ r.inScope, ∀ b ∈ r.inScope, a ≠ b →
      ∀ form, a.item.Bears text form → b.item.Bears text form →
        (∃ group ∈ groups, r.override a ∈ group.items) ∧
        (∃ group ∈ groups, r.override b ∈ group.items) ∧
        ((∃ group ∈ groups, r.override a ∈ group.items ∧ r.override b ∈ group.items ∧
          group.hasConflicts = true) ↔ a.item.form? text = b.item.form? text) := by
  have hdivides := (grouped_foldl text r.inScope).divides h
  refine ⟨_, r.mentioned_eq text h, ?_⟩
  intro a ha b hb hne form hbeara hbearb
  obtain ⟨forma, hforma⟩ := Item.exists_form?_of_bears hbeara
  obtain ⟨formb, hformb⟩ := Item.exists_form?_of_bears hbearb
  obtain ⟨groupa, hgroupa, -, hina⟩ := hdivides.exists_group ha hforma
  obtain ⟨groupb, hgroupb, -, hinb⟩ := hdivides.exists_group hb hformb
  refine ⟨⟨groupa, hgroupa, hina⟩, ⟨groupb, hgroupb, hinb⟩, ?_⟩
  constructor
  · rintro ⟨group, hgroup, hmema, hmemb, -⟩
    exact ((hdivides.mem_items_iff hgroup ha).1 hmema).trans
      ((hdivides.mem_items_iff hgroup hb).1 hmemb).symm
  · intro hsame
    have hboth := (together_iff hdivides ha hb).2 ⟨forma, hforma, hsame ▸ hforma⟩
    obtain ⟨group, hgroup, hmema, hmemb⟩ := hboth
    exact ⟨group, hgroup, hmema, hmemb, hdivides.hasConflicts hgroup ha hb hne hmema hmemb⟩

def gate : ScopedItem := { item := Item.spelled "Gate" ["gate", "key"], key := "gate", source := .library }

def ring : ScopedItem := { item := Item.spelled "Ring" ["Key"], key := "ring", source := .library }

def gatehouse : Repository := { items := [("gate", gate.item), ("ring", ring.item)] }

theorem inScope_gatehouse : gatehouse.inScope = [gate, ring] := rfl

theorem textual_gatehouse : ∀ entry ∈ gatehouse.inScope, entry.item.Textual := by
  intro entry hentry
  rw [inScope_gatehouse] at hentry
  rcases List.mem_pair.1 hentry with rfl | rfl
  · exact Item.textual_spelled _ _
  · exact Item.textual_spelled _ _

theorem gate_ne_ring : gate ≠ ring := by
  intro h
  have hkey := congrArg ScopedItem.key h
  revert hkey
  decide

theorem conflict_reported_gatehouse : (∀ entry ∈ gatehouse.inScope, entry.item.Textual) ∧
    gate ∈ gatehouse.inScope ∧ ring ∈ gatehouse.inScope ∧ gate ≠ ring ∧
      gate.item.Bears "The key." "key" ∧ ring.item.Bears "The key." "key" ∧
      ∃ groups, gatehouse.mentioned "The key." = .ok groups ∧
        ∃ group ∈ groups, gatehouse.override gate ∈ group.items ∧
          gatehouse.override ring ∈ group.items ∧ group.hasConflicts = true := by
  obtain ⟨groups, hgroups, hreported⟩ := conflict_reported_iff gatehouse "The key." textual_gatehouse
  have hgate : gate ∈ gatehouse.inScope := List.mem_cons_self
  have hring : ring ∈ gatehouse.inScope := List.mem_cons_of_mem _ List.mem_cons_self
  have hbeargate : gate.item.Bears "The key." "key" := ⟨by decide, by decide, "key", by decide, by decide⟩
  have hbearring : ring.item.Bears "The key." "key" := ⟨by decide, by decide, "Key", by decide, by decide⟩
  refine ⟨textual_gatehouse, hgate, hring, gate_ne_ring, hbeargate, hbearring, groups, hgroups, ?_⟩
  apply (hreported gate hgate ring hring gate_ne_ring "key" hbeargate hbearring).2.2.2
  decide

/-- A conflict that is not reported: where another keyword of the first item is in the text as well, the
two items that share a keyword are in different groups. -/
theorem conflict_unreported_gatehouse :
    gate ∈ gatehouse.inScope ∧ ring ∈ gatehouse.inScope ∧ gate ≠ ring ∧
      gate.item.Bears "The key of the gate." "key" ∧ ring.item.Bears "The key of the gate." "key" ∧
      ∃ groups, gatehouse.mentioned "The key of the gate." = .ok groups ∧
        ¬ ∃ group ∈ groups, gatehouse.override gate ∈ group.items ∧
          gatehouse.override ring ∈ group.items ∧ group.hasConflicts = true := by
  have hgate : gate ∈ gatehouse.inScope := List.mem_cons_self
  have hring : ring ∈ gatehouse.inScope := List.mem_cons_of_mem _ List.mem_cons_self
  have hdivides := (grouped_foldl "The key of the gate." gatehouse.inScope).divides textual_gatehouse
  refine ⟨hgate, hring, gate_ne_ring, ⟨by decide, by decide, "key", by decide, by decide⟩,
    ⟨by decide, by decide, "Key", by decide, by decide⟩, _,
    gatehouse.mentioned_eq "The key of the gate." textual_gatehouse, ?_⟩
  rintro ⟨group, hgroup, hingate, hinring, -⟩
  obtain ⟨form, hform, hsame⟩ := (together_iff hdivides hgate hring).1 ⟨group, hgroup, hingate, hinring⟩
  have hdiffer : gate.item.form? "The key of the gate." ≠ ring.item.form? "The key of the gate." := by
    decide
  exact hdiffer (hform.trans hsame.symm)

section Check

/-- The forms that a candidate claims, where its keywords are texts. -/
theorem claimedForms_eq (h : candidate.Textual) :
    claimedForms candidate.keywords = .ok candidate.claimed := by
  have htexts : (candidate.spellings.map Value.text).mapM Value.asText = .ok candidate.spellings := by
    rw [mapM_texts (g := id) fun _ => rfl, List.map_id]
  rw [claimedForms, h.keywords_eq, htexts]
  rfl

/-- What is reported for a candidate: the items in scope that are kept under another key than the
candidate's own and have a keyword of the same folded form as one of the candidate's that is not
blank. -/
theorem conflictsWith_eq {own : String} (hown : candidate.key = .ok own) (hcandidate : candidate.Textual)
    (h : ∀ entry ∈ r.inScope, entry.item.Textual) :
    r.conflictsWith candidate = .ok ((r.inScope.filter fun entry =>
      decide (entry.key ≠ own) && entry.item.claimsOneOf candidate.claimed).map (·.item)) := by
  rw [conflictsWith, claimedForms_eq hcandidate, ok_bind]
  rw [filterM_eq_ok (p := fun entry : ScopedItem =>
    decide (entry.key ≠ own) && entry.item.claimsOneOf candidate.claimed)]
  · rfl
  · intro entry hentry
    have hforms : entry.item.keywords.mapM (fun v => v.asText.map fold) =
        .ok (entry.item.spellings.map fold) := by
      rw [(h entry hentry).keywords_eq]
      exact mapM_texts (g := fold) (fun _ => rfl) _
    rw [hown, ok_bind, hforms]
    by_cases hkey : entry.key = own
    · simp [hkey]
    · simp [hkey, Item.claimsOneOf]

/-- Where nothing is reported, no item kept under another key shares a keyword that is not blank. -/
theorem not_claimed_of_clear {own : String} (hown : candidate.key = .ok own)
    (hcandidate : candidate.Textual) (h : ∀ entry ∈ r.inScope, entry.item.Textual)
    (hclear : r.conflictsWith candidate = .ok []) {entry : ScopedItem} (hentry : entry ∈ r.inScope)
    (hkey : entry.key ≠ own) {keyword shared : String} (hkeyword : keyword ∈ candidate.spellings)
    (hshared : shared ∈ entry.item.spellings) (hsame : fold shared = fold keyword) :
    trim keyword.toList = [] := by
  by_contra hnonblank
  rw [conflictsWith_eq hown hcandidate h, Except.ok.injEq, List.map_eq_nil_iff,
    List.filter_eq_nil_iff] at hclear
  apply hclear entry hentry
  rw [Bool.and_eq_true, decide_eq_true_eq]
  refine ⟨hkey, Item.claimsOneOf_iff.2 ⟨shared, hshared, ?_⟩⟩
  rw [hsame]
  exact Item.mem_claimed_iff.2 ⟨keyword, hkeyword, hnonblank, rfl⟩

end Check

section Candidate

/-- The repository has the items of another one, and one item more; the keys may be others. -/
structure Adds (r existing : Repository) (candidate : Item) : Prop where
  position : r.position = existing.position
  items : (Keyed.values r.items).Perm (candidate :: Keyed.values existing.items)

/-- Whether an item is in scope does not depend on its key. -/
theorem items_inScope (r : Repository) : r.inScope.map (·.item) =
    (Keyed.values r.items).filter fun item => (item.levelAt r.position).isSome := by
  rw [inScope, Keyed.values]
  induction r.items with
  | nil => rfl
  | cons entry rest ih =>
    obtain ⟨key, item⟩ := entry
    cases hlevel : item.levelAt r.position with
    | none => simp [seen?, hlevel, ih]
    | some level => simp [seen?, hlevel, ih]

/-- A list with one item more comes to a repository with one item more, whatever keys the items get. -/
theorem adds_of_list {items : List Item} {workbooks others : List Workbook} {position : Position}
    {desk after desk' after' : Desk}
    (h : ofCollection (.list items) others position desk = .ok existing after)
    (h' : ofCollection (.list (items ++ [candidate])) workbooks position desk' = .ok r after') :
    r.Adds existing candidate := by
  rw [ofCollection] at h h'
  obtain ⟨kept, s, hkept, h⟩ := Act.parts_of_bind h
  obtain ⟨all, s', hall, h'⟩ := Act.parts_of_bind h'
  obtain ⟨rfl, -⟩ := EStateM.Result.ok.inj h
  obtain ⟨rfl, -⟩ := EStateM.Result.ok.inj h'
  refine ⟨rfl, ?_⟩
  rw [ItemCollection.values_keyList hkept, ItemCollection.values_keyList hall]
  exact List.perm_append_singleton candidate items

namespace Adds

variable (h : r.Adds existing candidate)
include h

/-- The items in scope are those of the other repository, and the candidate where it is in scope. -/
theorem perm_inScope : (r.inScope.map (·.item)).Perm
    ((if (candidate.levelAt r.position).isSome then [candidate] else []) ++
      existing.inScope.map (·.item)) := by
  have hperm := h.items.filter fun item => (item.levelAt r.position).isSome
  rw [items_inScope, items_inScope, ← h.position]
  apply hperm.trans
  rw [List.filter_cons]
  split
  · exact List.Perm.refl _
  · exact List.Perm.refl _

theorem textual (htextual : ∀ entry ∈ r.inScope, entry.item.Textual) :
    ∀ entry ∈ existing.inScope, entry.item.Textual := by
  intro entry hentry
  have hmem : entry.item ∈ r.inScope.map (·.item) := by
    apply h.perm_inScope.mem_iff.2
    exact List.mem_append_right _ (List.mem_map_of_mem hentry)
  obtain ⟨kept, hkept, hsame⟩ := List.mem_map.1 hmem
  exact hsame ▸ htextual kept hkept

/-- The items of a group, where the candidate is in scope. -/
theorem perm_goingBy (hscope : (candidate.levelAt r.position).isSome) (text form : String) :
    ((goingBy text form r.inScope).map (·.item)).Perm
      ((candidate :: existing.inScope.map (·.item)).filter fun item =>
        item.form? text = some form) := by
  have hperm := h.perm_inScope.filter fun item : Item => decide (item.form? text = some form)
  rw [if_pos hscope, List.filter_map] at hperm
  exact hperm

/-- The candidate is in scope exactly where one of the items in scope is the candidate. -/
theorem exists_inScope_iff : (∃ entry ∈ r.inScope, entry.item = candidate) ↔
    (candidate.levelAt r.position).isSome := by
  have hmem : candidate ∈ Keyed.values r.items := h.items.mem_iff.2 List.mem_cons_self
  rw [← List.mem_map, items_inScope, List.mem_filter]
  exact and_iff_right hmem

/-- The candidate is in a group with another item exactly where it is in scope and goes by the same form
as one of the items that were there. -/
theorem meets_iff (hdivides : r.Divides text groups) :
    (∃ group ∈ groups, 2 ≤ group.items.length ∧ ∃ entry ∈ group.items, entry.item = candidate) ↔
      (candidate.levelAt r.position).isSome ∧ ∃ other ∈ existing.inScope, ∃ form,
        candidate.form? text = some form ∧ other.item.form? text = some form := by
  have hlength {group : KeywordGroup} (hgroup : group ∈ groups)
      (hscope : (candidate.levelAt r.position).isSome)
      (hform : candidate.form? text = some (fold group.keyword)) :
      group.items.length = ((existing.inScope.map (·.item)).filter fun item =>
        item.form? text = some (fold group.keyword)).length + 1 := by
    have hperm := h.perm_goingBy hscope text (fold group.keyword)
    simp only [List.filter_cons, hform, decide_true, if_true] at hperm
    calc group.items.length
        = (goingBy text (fold group.keyword) r.inScope).length := by
          rw [(hdivides.items group hgroup).length_eq, List.length_map]
      _ = ((goingBy text (fold group.keyword) r.inScope).map (·.item)).length := by
          rw [List.length_map]
      _ = _ := by rw [hperm.length_eq, List.length_cons]
  constructor
  · rintro ⟨group, hgroup, htwo, entry, hentry, hcandidate⟩
    obtain ⟨kept, hkept, rfl⟩ := List.mem_map.1 ((hdivides.items group hgroup).mem_iff.1 hentry)
    rw [override_item] at hcandidate
    obtain ⟨hin, hgoes⟩ := List.mem_filter.1 hkept
    have hform : candidate.form? text = some (fold group.keyword) :=
      hcandidate ▸ of_decide_eq_true hgoes
    have hscope := h.exists_inScope_iff.1 ⟨kept, hin, hcandidate⟩
    rw [hlength hgroup hscope hform] at htwo
    obtain ⟨item, hitem⟩ := List.exists_mem_of_length_pos (Nat.le_of_succ_le_succ htwo)
    obtain ⟨hmem, hother⟩ := List.mem_filter.1 hitem
    obtain ⟨other, hinother, rfl⟩ := List.mem_map.1 hmem
    exact ⟨hscope, other, hinother, fold group.keyword, hform, of_decide_eq_true hother⟩
  · rintro ⟨hscope, other, hother, form, hform, hotherform⟩
    obtain ⟨kept, hkept, rfl⟩ := h.exists_inScope_iff.2 hscope
    obtain ⟨group, hgroup, rfl, hmem⟩ := hdivides.exists_group hkept hform
    refine ⟨group, hgroup, ?_, r.override kept, hmem, override_item r kept⟩
    rw [hlength hgroup hscope hform]
    apply Nat.succ_le_succ
    apply List.length_pos_of_mem (a := other.item)
    exact List.mem_filter.2 ⟨List.mem_map_of_mem hother, decide_eq_true hotherform⟩

end Adds

/-- When a candidate that the check has nothing to report about still meets another item: in some text
the two are in one group exactly where the candidate is in scope, and the two go by one keyword of the
candidate's, in the text that is this keyword alone, which is blank or belongs to an item that is kept
under the candidate's own key. -/
theorem candidate_meets_iff {own : String} (hadds : r.Adds existing candidate)
    (hown : candidate.key = .ok own) (htextual : ∀ entry ∈ r.inScope, entry.item.Textual)
    (hclear : existing.conflictsWith candidate = .ok []) :
    (∃ text groups, r.mentioned text = .ok groups ∧
      ∃ group ∈ groups, 2 ≤ group.items.length ∧ ∃ entry ∈ group.items, entry.item = candidate) ↔
    (candidate.levelAt r.position).isSome ∧ ∃ other ∈ existing.inScope,
      ∃ keyword ∈ candidate.spellings, candidate.GoesBy keyword ∧ other.item.GoesBy keyword ∧
        (trim keyword.toList = [] ∨ other.key = own) := by
  have hdivides (text : String) := (grouped_foldl text r.inScope).divides htextual
  constructor
  · rintro ⟨text, groups, hgroups, hmeets⟩
    rw [r.mentioned_eq text htextual] at hgroups
    obtain rfl := Except.ok.inj hgroups
    obtain ⟨hscope, other, hother, form, hform, hotherform⟩ := (hadds.meets_iff (hdivides text)).1 hmeets
    obtain ⟨kept, hkept, rfl⟩ := hadds.exists_inScope_iff.2 hscope
    obtain ⟨keyword, hkeyword, rfl⟩ := Item.form?_eq_some_iff.1 hform
    obtain ⟨shared, hshared, hsame⟩ := Item.form?_eq_some_iff.1 hotherform
    have hmine := Item.mem_spellings_of_mention? hkeyword
    refine ⟨hscope, other, hother, keyword, hmine, Item.goesBy_of_form? hform,
      Item.goesBy_of_form? hotherform, ?_⟩
    by_cases hkey : other.key = own
    · exact Or.inr hkey
    · apply Or.inl
      exact not_claimed_of_clear hown (htextual kept hkept) (hadds.textual htextual) hclear hother hkey
        hmine (Item.mem_spellings_of_mention? hshared) hsame
  · rintro ⟨hscope, other, hother, keyword, -, hmine, htheirs, -⟩
    refine ⟨keyword, _, r.mentioned_eq keyword htextual, ?_⟩
    apply (hadds.meets_iff (hdivides keyword)).2
    exact ⟨hscope, other, hother, fold keyword, hmine, htheirs⟩

def spaced (name : String) : Item := Item.spelled name [" "]

theorem candidate_meets_spaced :
    let existing : Repository := { items := [("mill", spaced "Mill")] }
    let r : Repository := { items := [("mill", spaced "Mill"), ("ford", spaced "Ford")] }
    r.Adds existing (spaced "Ford") ∧ (spaced "Ford").key = .ok "ford" ∧
      (∀ entry ∈ r.inScope, entry.item.Textual) ∧ existing.conflictsWith (spaced "Ford") = .ok [] ∧
      ∃ text groups, r.mentioned text = .ok groups ∧ ∃ group ∈ groups, 2 ≤ group.items.length ∧
        ∃ entry ∈ group.items, entry.item = spaced "Ford" := by
  intro existing r
  let desk : Desk := Desk.start { moment := { year := 1, month := 1, day := 1 }, millis := 0 }
  have hadds : r.Adds existing (spaced "Ford") := by
    have hmill : ofCollection (.list [spaced "Mill"]) [] {} desk = .ok existing desk := rfl
    have hboth : ofCollection (.list [spaced "Mill", spaced "Ford"]) [] {} desk = .ok r desk := rfl
    exact adds_of_list hmill hboth
  have hown : (spaced "Ford").key = .ok "ford" := rfl
  have htextual : ∀ entry ∈ r.inScope, entry.item.Textual := by
    intro entry hentry
    have hcases : entry ∈ [_, _] := hentry
    rcases List.mem_pair.1 hcases with rfl | rfl
    · exact Item.textual_spelled _ _
    · exact Item.textual_spelled _ _
  have hclear : existing.conflictsWith (spaced "Ford") = .ok [] := rfl
  refine ⟨hadds, hown, htextual, hclear, ?_⟩
  apply (candidate_meets_iff hadds hown htextual hclear).2
  refine ⟨rfl, _, List.mem_singleton.2 rfl, " ", List.mem_singleton.2 rfl, ?_, ?_, ?_⟩
  · show (spaced "Ford").form? " " = some (fold " ")
    decide
  · show (spaced "Mill").form? " " = some (fold " ")
    decide
  · exact Or.inl (by decide)

end Candidate

end Repository

end TaleLoom
