import TaleLoom.Proofs.Repository.Keywords
import TaleLoom.Proofs.Value.Same
/-!
What comes into view stays there. An item that is seen from a position is seen from every position inside
it (`Item.levelAt_of_inside`), and an item that is found by a text is found by every text around it
(`Item.foundBy_of_infix`), though it may be by another keyword. Which items a text mentions and which go
with it is told here for every call that returns (`Repository.mem_mentioned_iff`,
`Repository.mem_relevant_iff`), whatever the keywords of items that it does not come to.
-/

namespace TaleLoom

open Text

/-- What occurs in a text occurs, letter case aside, in the folded text. -/
theorem Text.infix_fold {text text' : String} (h : text.toList <:+: text'.toList) :
    (fold text).toList <:+: (fold text').toList := by
  obtain ⟨before, after, htext⟩ := h
  refine ⟨before.flatMap foldLetter, after.flatMap foldLetter, ?_⟩
  simp only [fold, String.toList_ofList, ← htext, List.flatMap_append]

namespace Position

/-- A position inside another one has all the parts that the other sets; it may set more of them. -/
structure Inside (inner outer : Position) : Prop where
  shelf : outer.shelf ≠ .null → outer.shelf.same inner.shelf = true
  book : outer.book ≠ .null → outer.book.same inner.book = true
  chapter : outer.chapter ≠ .null → outer.chapter.same inner.chapter = true

/-- Where a part of an anchor agrees with a position, the position has the part set. -/
theorem ne_null_of_agrees {expected actual : Value} (h : agrees expected actual = true) :
    actual ≠ .null := by
  rintro rfl
  unfold agrees at h
  split at h
  · cases h
  · cases h
  · next hnull _ => exact hnull (Value.eq_null_of_same h)

theorem agrees_of_same {expected actual other : Value} (h : agrees expected actual = true)
    (hsame : actual.same other = true) : agrees expected other = true := by
  unfold agrees at h ⊢
  split at h
  · cases h
  · cases h
  · exact Value.same_trans _ _ _ h hsame

theorem agrees_of_inside {expected actual other : Value} (h : agrees expected actual = true)
    (hsame : actual ≠ .null → actual.same other = true) : agrees expected other = true :=
  agrees_of_same h (hsame (ne_null_of_agrees h))

theorem covers_of_inside {inner outer : Position} (h : inner.Inside outer) {level : ScopeLevel}
    {anchor : Position} (hcovers : covers level anchor outer = true) :
    covers level anchor inner = true := by
  cases level with
  | library => rfl
  | shelf =>
    simp only [covers, partsTo, List.zip_cons_cons, List.zip_nil_right, List.all_cons, List.all_nil,
      Bool.and_eq_true, and_true] at hcovers ⊢
    exact agrees_of_inside hcovers h.shelf
  | book =>
    simp only [covers, partsTo, List.zip_cons_cons, List.zip_nil_right, List.all_cons, List.all_nil,
      Bool.and_eq_true, and_true] at hcovers ⊢
    exact ⟨agrees_of_inside hcovers.1 h.shelf, agrees_of_inside hcovers.2 h.book⟩
  | chapter =>
    simp only [covers, partsTo, List.zip_cons_cons, List.zip_nil_right, List.all_cons, List.all_nil,
      Bool.and_eq_true, and_true] at hcovers ⊢
    exact ⟨agrees_of_inside hcovers.1 h.shelf, agrees_of_inside hcovers.2.1 h.book,
      agrees_of_inside hcovers.2.2 h.chapter⟩

end Position

namespace Item

variable {item : Item}

/-- An item is seen at the same level from inside a position that it is seen from. -/
theorem levelAt_of_inside {inner outer : Position} (h : inner.Inside outer) {level : ScopeLevel}
    (hlevel : item.levelAt outer = some level) : item.levelAt inner = some level := by
  rw [levelAt] at hlevel ⊢
  split at hlevel
  · next hseen =>
    rw [Bool.or_eq_true] at hseen
    have hinner : (item.forced || item.scope.appliesAt (some item.anchor) inner) = true := by
      rw [Bool.or_eq_true]
      exact hseen.imp_right (Position.covers_of_inside h)
    rw [if_pos hinner]
    exact hlevel
  · cases hlevel

def FoundBy (folded : String) (item : Item) : Prop :=
  ∃ found, Repository.firstKeyword folded item.keywords = .ok (some found)

theorem firstKeyword_of_infix {folded around : String} (h : folded.toList <:+: around.toList)
    {keywords : List Value} {found : String × String}
    (hfound : Repository.firstKeyword folded keywords = .ok (some found)) :
    ∃ found', Repository.firstKeyword around keywords = .ok (some found') := by
  induction keywords with
  | nil => cases hfound
  | cons v rest ih =>
    rw [Repository.firstKeyword] at hfound ⊢
    obtain ⟨keyword, hkeyword, hfound⟩ := parts_of_bind_eq_ok hfound
    rw [hkeyword, ok_bind]
    dsimp only at hfound ⊢
    split
    · exact ⟨_, rfl⟩
    · next haround =>
      rw [if_neg] at hfound
      · exact ih hfound
      · intro hoccurs
        rw [Bool.and_eq_true, contains_iff] at haround hoccurs
        exact haround ⟨hoccurs.1, hoccurs.2.trans h⟩

theorem foundBy_of_infix {folded around : String} (h : folded.toList <:+: around.toList)
    (hfound : item.FoundBy folded) : item.FoundBy around := by
  obtain ⟨found, hfound⟩ := hfound
  exact firstKeyword_of_infix h hfound

end Item

namespace Repository

variable {r : Repository} {text : String} {entry : ScopedItem}

section Members

def gathered (groups : Keyed String (String × List ScopedItem)) : List ScopedItem :=
  groups.flatMap (·.2.2)

theorem joinGroup_cons (form keyword : String) (entry : ScopedItem)
    (group : String × String × List ScopedItem) (groups : Keyed String (String × List ScopedItem)) :
    joinGroup form keyword entry (group :: groups) =
      if group.1 = form then (group.1, group.2.1, group.2.2 ++ [entry]) :: groups
      else group :: joinGroup form keyword entry groups := by
  obtain ⟨other, spelling, items⟩ := group
  by_cases hform : other = form
  · simp [joinGroup, Keyed.get?, Keyed.set, hform]
  · simp only [joinGroup, Keyed.get?, Keyed.set, beq_iff_eq, hform, if_false]
    cases Keyed.get? form groups <;> rfl

/-- One item more has joined the groups, and none has left them. -/
theorem mem_gathered_joinGroup (form keyword : String) (entry other : ScopedItem)
    (groups : Keyed String (String × List ScopedItem)) :
    other ∈ gathered (joinGroup form keyword entry groups) ↔ other ∈ gathered groups ∨ other = entry := by
  induction groups with
  | nil => simp [joinGroup, Keyed.get?, Keyed.set, gathered]
  | cons group groups ih =>
    rw [gathered] at ih
    rw [joinGroup_cons]
    split
    · simp only [gathered, List.flatMap_cons, List.mem_append, List.mem_singleton]
      tauto
    · simp only [gathered, List.flatMap_cons, List.mem_append, ih]
      tauto

theorem mem_gathered_foldlM {folded : String} {items : List ScopedItem}
    {start raw : Keyed String (String × List ScopedItem)}
    (h : items.foldlM (fun groups entry => do
      match ← firstKeyword folded entry.item.keywords with
      | some (form, keyword) => return joinGroup form keyword entry groups
      | none => return groups) start = .ok raw) :
    entry ∈ gathered raw ↔ entry ∈ gathered start ∨ entry ∈ items ∧ entry.item.FoundBy folded := by
  induction items generalizing start with
  | nil =>
    obtain rfl := Except.ok.inj h
    simp
  | cons first rest ih =>
    rw [List.foldlM_cons] at h
    obtain ⟨next, hnext, h⟩ := parts_of_bind_eq_ok h
    obtain ⟨found?, hfound, hnext⟩ := parts_of_bind_eq_ok hnext
    rw [ih h, List.mem_cons, or_and_right, ← or_assoc]
    apply or_congr_left
    cases found? with
    | none =>
      obtain rfl := Except.ok.inj hnext
      have hmissed : ¬ first.item.FoundBy folded := by
        rintro ⟨found, hsome⟩
        rw [hfound] at hsome
        cases hsome
      constructor
      · exact Or.inl
      · rintro (hstart | ⟨rfl, hfirst⟩)
        · exact hstart
        · exact absurd hfirst hmissed
    | some found =>
      obtain rfl := Except.ok.inj hnext
      rw [mem_gathered_joinGroup]
      apply or_congr_right
      constructor
      · rintro rfl
        exact ⟨rfl, found, hfound⟩
      · exact And.left

/-- Where the groups of a text are found, each has the items that were found for it, in reading order. -/
theorem parts_of_mentioned {found : List KeywordGroup} (h : r.mentioned text = .ok found) :
    ∃ raw, groups (fold text) r.inScope = .ok raw ∧
      List.Forall₂ (fun group resolved => resolved.items =
        ScopedItem.sortByScope (r.applyOverrides group.2.2)) raw found := by
  obtain ⟨raw, hraw, hparts⟩ := parts_of_bind_eq_ok h
  refine ⟨raw, hraw, (mapM_ok_iff.1 hparts).imp ?_⟩
  rintro ⟨form, spelling, items⟩ resolved hgroup
  obtain ⟨contents, -, hgroup⟩ := parts_of_bind_eq_ok hgroup
  obtain rfl := Except.ok.inj hgroup
  rfl

/-- Which items are in the groups of a text, whenever the groups are found: those in scope that the text
finds. -/
theorem mem_mentioned_iff {groups : List KeywordGroup} (h : r.mentioned text = .ok groups) :
    (∃ group ∈ groups, entry ∈ group.items) ↔
      ∃ kept ∈ r.inScope, kept.item.FoundBy (fold text) ∧ r.override kept = entry := by
  obtain ⟨raw, hraw, hresolved⟩ := parts_of_mentioned h
  have hmem : (∃ group ∈ groups, entry ∈ group.items) ↔
      ∃ kept ∈ gathered raw, r.override kept = entry := by
    clear h hraw
    rw [gathered]
    induction hresolved with
    | nil => simp
    | @cons group resolved raw groups hitems _ ih =>
      have hfirst : entry ∈ resolved.items ↔ ∃ kept ∈ group.2.2, r.override kept = entry := by
        rw [hitems, (ScopedItem.perm_sortByScope _).mem_iff, applyOverrides, List.mem_map]
      simp only [List.exists_mem_cons_iff, hfirst, ih, List.flatMap_cons, List.mem_append, or_and_right,
        exists_or]
  rw [hmem]
  constructor
  · rintro ⟨kept, hkept, rfl⟩
    obtain hnone | ⟨hscope, hfound⟩ := (mem_gathered_foldlM hraw).1 hkept
    · cases hnone
    · exact ⟨kept, hscope, hfound, rfl⟩
  · rintro ⟨kept, hscope, hfound, rfl⟩
    exact ⟨kept, (mem_gathered_foldlM hraw).2 (Or.inr ⟨hscope, hfound⟩), rfl⟩

@[simp] theorem override_key (r : Repository) (entry : ScopedItem) :
    (r.override entry).key = entry.key := by
  rw [override]
  split
  · rfl
  · rfl

/-- The keys in the groups of a text are those of the items in scope that it finds. -/
theorem contains_mentioned_iff {groups : List KeywordGroup} (h : r.mentioned text = .ok groups)
    (key : String) : (groups.flatMap fun group => group.items.map (·.key)).contains key = true ↔
      ∃ other ∈ r.inScope, other.item.FoundBy (fold text) ∧ other.key = key := by
  rw [List.contains_iff_mem, List.mem_flatMap]
  constructor
  · rintro ⟨group, hgroup, hkey⟩
    obtain ⟨member, hmember, rfl⟩ := List.mem_map.1 hkey
    obtain ⟨other, hscope, hfound, rfl⟩ := (mem_mentioned_iff h).1 ⟨group, hgroup, hmember⟩
    exact ⟨other, hscope, hfound, (override_key r other).symm⟩
  · rintro ⟨other, hscope, hfound, rfl⟩
    obtain ⟨group, hgroup, hmember⟩ := (mem_mentioned_iff h).2 ⟨other, hscope, hfound, rfl⟩
    exact ⟨group, hgroup, List.mem_map.2 ⟨_, hmember, override_key r other⟩⟩

/-- Which items go with a text, whenever they are found: those in scope that are forced, or have the key
of one that the text finds. -/
theorem mem_relevant_iff {found : List ScopedItem} (h : r.relevant text = .ok found) :
    entry ∈ found ↔ ∃ kept ∈ r.inScope, r.override kept = entry ∧
      (kept.item.forced = true ∨
        ∃ other ∈ r.inScope, other.item.FoundBy (fold text) ∧ other.key = kept.key) := by
  obtain ⟨groups, hgroups, h⟩ := parts_of_bind_eq_ok h
  obtain rfl := Except.ok.inj h
  rw [(ScopedItem.perm_sortByScope _).mem_iff, applyOverrides, List.mem_map]
  simp only [List.mem_filter, Bool.or_eq_true, contains_mentioned_iff hgroups]
  constructor
  · rintro ⟨kept, ⟨hscope, hrelevant⟩, rfl⟩
    exact ⟨kept, hscope, rfl, hrelevant⟩
  · rintro ⟨kept, hscope, rfl, hrelevant⟩
    exact ⟨kept, ⟨hscope, hrelevant⟩, rfl⟩

/-- The items that go with a text are found where the groups are. -/
theorem exists_relevant {groups : List KeywordGroup} (h : r.mentioned text = .ok groups) :
    ∃ found, r.relevant text = .ok found :=
  ⟨_, by rw [relevant, h]; rfl⟩

end Members

def seenFrom (r : Repository) (position : Position) : Repository := { r with position }

/-- What is in scope at a position is in scope, with the same levels and in the same order, inside it. -/
theorem inScope_sublist {inner : Position} (h : inner.Inside r.position) :
    r.inScope.Sublist (r.seenFrom inner).inScope := by
  show (r.items.filterMap (seen? r.position)).Sublist (r.items.filterMap (seen? inner))
  induction r.items with
  | nil => exact List.Sublist.refl _
  | cons entry rest ih =>
    obtain ⟨key, item⟩ := entry
    rw [List.filterMap_cons, List.filterMap_cons]
    cases hlevel : item.levelAt r.position with
    | none =>
      have hseen : seen? r.position (key, item) = none := by rw [seen?, hlevel]; rfl
      rw [hseen]
      dsimp only
      split
      · exact ih
      · exact ih.cons _
    | some level =>
      have hseen {p : Position} (hp : item.levelAt p = some level) :
          seen? p (key, item) = some { item, key, source := level } := by rw [seen?, hp]; rfl
      rw [hseen hlevel, hseen (Item.levelAt_of_inside h hlevel)]
      exact ih.cons_cons _

/-- The context of a text only grows. Seen from inside a position, every item in scope there is in scope at
the same level. Of a text around another one, the items that go with it have all the keys of those that
go with the other, and every item in a group of the other is in some group of it, whenever these calls
return; and they return where the keywords and contents of the items in scope are texts. -/
theorem context_grows (r : Repository) {inner : Position} {text around : String}
    (hinside : inner.Inside r.position) (htext : text.toList <:+: around.toList) :
    r.inScope.Sublist (r.seenFrom inner).inScope ∧
    (∀ found, r.relevant text = .ok found →
      ∀ found', (r.seenFrom inner).relevant around = .ok found' →
        found.map (·.key) ⊆ found'.map (·.key)) ∧
    (∀ groups, r.mentioned text = .ok groups →
      ∀ groups', (r.seenFrom inner).mentioned around = .ok groups' →
        ∀ group ∈ groups, ∀ entry ∈ group.items, ∃ group' ∈ groups', ∃ entry' ∈ group'.items,
          entry'.key = entry.key ∧ entry'.item = entry.item) ∧
    ((∀ entry ∈ (r.seenFrom inner).inScope, entry.item.Textual) →
      (∃ groups, r.mentioned text = .ok groups) ∧
      (∃ groups', (r.seenFrom inner).mentioned around = .ok groups') ∧
      (∃ found, r.relevant text = .ok found) ∧
      ∃ found', (r.seenFrom inner).relevant around = .ok found') := by
  have hscope := inScope_sublist hinside
  have hfolded := infix_fold htext
  refine ⟨hscope, ?_, ?_, ?_⟩
  · intro found hfound found' hfound' key hkey
    obtain ⟨entry, hentry, rfl⟩ := List.mem_map.1 hkey
    obtain ⟨kept, hkept, rfl, hrelevant⟩ := (mem_relevant_iff hfound).1 hentry
    apply List.mem_map.2
    refine ⟨(r.seenFrom inner).override kept, (mem_relevant_iff hfound').2 ?_, ?_⟩
    · refine ⟨kept, hscope.subset hkept, rfl, hrelevant.imp_right ?_⟩
      rintro ⟨other, hother, hfinds, hkeys⟩
      exact ⟨other, hscope.subset hother, Item.foundBy_of_infix hfolded hfinds, hkeys⟩
    · rw [override_key, override_key]
  · intro groups hgroups groups' hgroups' group hgroup entry hentry
    obtain ⟨kept, hkept, hfinds, rfl⟩ := (mem_mentioned_iff hgroups).1 ⟨group, hgroup, hentry⟩
    obtain ⟨group', hgroup', hmem⟩ := (mem_mentioned_iff hgroups').2
      ⟨kept, hscope.subset hkept, Item.foundBy_of_infix hfolded hfinds, rfl⟩
    refine ⟨group', hgroup', _, hmem, ?_, ?_⟩
    · rw [override_key, override_key]
    · rw [override_item, override_item]
  · intro htextual
    have houter := r.mentioned_eq text fun entry hentry => htextual entry (hscope.subset hentry)
    have hinner := (r.seenFrom inner).mentioned_eq around htextual
    exact ⟨⟨_, houter⟩, ⟨_, hinner⟩, exists_relevant houter, exists_relevant hinner⟩

def wharf : Repository where
  items := [
    ("gull", { Item.named (.text "Gull") 0 with
      keywords := [.text "gull", .text "bird"], scope := .shelf, anchor := { shelf := .text "coast" } }),
    ("pier", { Item.named (.text "Pier") 0 with
      keywords := [.text "pier"], scope := .book
      anchor := { shelf := .text "coast", book := .text "tides" } })]
  position := { shelf := .text "coast" }

def tidesBook : Position := { shelf := .text "coast", book := .text "tides" }

/-- The gull goes with both texts, by another keyword in the larger one. -/
theorem context_grows_wharf :
    tidesBook.Inside wharf.position ∧ "a bird".toList <:+: "A gull, a bird of the pier.".toList ∧
      (∀ entry ∈ (wharf.seenFrom tidesBook).inScope, entry.item.Textual) ∧
      ∃ found found', wharf.relevant "a bird" = .ok found ∧
        (wharf.seenFrom tidesBook).relevant "A gull, a bird of the pier." = .ok found' ∧
        found.map (·.key) ⊆ found'.map (·.key) := by
  have hinside : tidesBook.Inside wharf.position :=
    ⟨fun _ => Value.same_text "coast" "coast", fun h => absurd rfl h, fun h => absurd rfl h⟩
  have htext : "a bird".toList <:+: "A gull, a bird of the pier.".toList :=
    ⟨"A gull, ".toList, " of the pier.".toList, by decide⟩
  have htextual : ∀ entry ∈ (wharf.seenFrom tidesBook).inScope, entry.item.Textual := by
    intro entry hentry
    have hcases : entry ∈ [_, _] := hentry
    rcases List.mem_pair.1 hcases with rfl | rfl
    · exact ⟨by simp, _, rfl⟩
    · exact ⟨by simp, _, rfl⟩
  obtain ⟨-, hkeys, -, hreturns⟩ := context_grows wharf hinside htext
  obtain ⟨-, -, ⟨found, hfound⟩, found', hfound'⟩ := hreturns htextual
  exact ⟨hinside, htext, htextual, found, found', hfound, hfound', hkeys found hfound found' hfound'⟩

end Repository

end TaleLoom
