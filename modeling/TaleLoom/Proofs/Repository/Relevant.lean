import TaleLoom.Proofs.Repository.Conflicts
import TaleLoom.Proofs.Repository.Overrides
/-!
What goes with a text. The items are found through the groups of the text, by their keys, and are put in
order once more. No item is lost or doubled on the way, since different items are kept under different keys.
The order agrees with that of every group, since a group and the whole are parts of the items in scope and
sorting respects parts (`ScopedItem.sublist_sortByScope`).
-/

namespace TaleLoom

open Text

namespace ScopedItem

/-- One item more is read after those that are less specific and before all others. -/
theorem exists_sortByScope_cons (entry : ScopedItem) (items : List ScopedItem) :
    ∃ front back, sortByScope items = front ++ back ∧
      sortByScope (entry :: items) = front ++ entry :: back ∧
      (∀ other ∈ front, other.rank < entry.rank) ∧ ∀ other ∈ back, entry.rank ≤ other.rank := by
  obtain ⟨front, back, hall, hrest, hfront⟩ :=
    List.mergeSort_cons before_trans before_total entry items
  have hsorted : (front ++ entry :: back).Pairwise fun a b => a.rank ≤ b.rank :=
    hall ▸ pairwise_sortByScope (entry :: items)
  refine ⟨front, back, hrest, hall, ?_, ?_⟩
  · intro other hother
    have hnot := hfront other hother
    simpa only [before, Bool.not_eq_true', decide_eq_false_iff_not, Nat.not_le] using hnot
  · exact (List.pairwise_cons.1 (List.pairwise_append.1 hsorted).2.1).1

/-- The two parts are told apart by how specific their items are. -/
theorem sortByScope_cons (entry : ScopedItem) (items : List ScopedItem) :
    sortByScope (entry :: items) =
      (sortByScope items).filter (fun other => other.rank < entry.rank) ++
        entry :: (sortByScope items).filter (fun other => ¬ other.rank < entry.rank) := by
  obtain ⟨front, back, hrest, hall, hfront, hback⟩ := exists_sortByScope_cons entry items
  have hfront' : ∀ other ∈ front, decide (other.rank < entry.rank) = true := by
    intro other hother
    exact decide_eq_true (hfront other hother)
  have hback' : ∀ other ∈ back, decide (other.rank < entry.rank) = false := by
    intro other hother
    exact decide_eq_false (Nat.not_lt.2 (hback other hother))
  rw [hall, hrest, List.filter_append, List.filter_append]
  congr 1
  · rw [List.filter_eq_self.2 hfront', List.filter_eq_nil_iff.2, List.append_nil]
    intro other hother
    simp [hback' other hother]
  · rw [List.filter_eq_nil_iff.2, List.nil_append, List.filter_eq_self.2]
    · intro other hother
      simpa using hback other hother
    · intro other hother
      simpa using hfront other hother

/-- Some items among others are read in the order in which they are read among the others. -/
theorem sublist_sortByScope {items others : List ScopedItem} (h : items.Sublist others) :
    (sortByScope items).Sublist (sortByScope others) := by
  induction h with
  | slnil => exact List.Sublist.refl _
  | @cons items others entry _ ih =>
    obtain ⟨front, back, hrest, hall, -, -⟩ := exists_sortByScope_cons entry others
    rw [hrest] at ih
    rw [hall]
    exact ih.trans ((List.Sublist.refl front).append (List.sublist_cons_self entry back))
  | @cons_cons items others entry _ ih =>
    rw [sortByScope_cons, sortByScope_cons]
    exact (ih.filter _).append ((ih.filter _).cons_cons entry)

end ScopedItem

namespace Item

variable {item : Item} {position : Position} {text : String}

def CalledFor (item : Item) (position : Position) (text : String) : Prop :=
  item.forced = true ∨
    item.scope.appliesAt (some item.anchor) position = true ∧ ∃ form, item.Bears text form

theorem levelAt_eq_some_iff {level : ScopeLevel} : item.levelAt position = some level ↔
    (item.forced = true ∨ item.scope.appliesAt (some item.anchor) position = true) ∧
      item.scope = level := by
  rw [levelAt, ← Bool.or_eq_true]
  split
  · next hseen => rw [Option.some.injEq, and_iff_right hseen]
  · next hseen => simp only [hseen, false_and, reduceCtorEq]

theorem mem_spellings_iff {keyword : String} : keyword ∈ item.spellings ↔ .text keyword ∈ item.keywords := by
  rw [spellings, List.mem_filterMap]
  constructor
  · rintro ⟨v, hv, hkeyword⟩
    cases v with
    | text s =>
      obtain rfl := Option.some.inj hkeyword
      exact hv
    | _ => cases hkeyword
  · intro hkeyword
    exact ⟨.text keyword, hkeyword, rfl⟩

/-- Where keywords could be looked through, one is found if one of them occurs in the text. -/
theorem isSome_firstKeyword_iff {folded : String} {keywords : List Value}
    {found? : Option (String × String)} (h : Repository.firstKeyword folded keywords = .ok found?) :
    found?.isSome = true ↔
      ∃ keyword, .text keyword ∈ keywords ∧ fold keyword ≠ "" ∧ (fold keyword).toList <:+: folded.toList := by
  induction keywords with
  | nil =>
    obtain rfl := Except.ok.inj h
    simp
  | cons v rest ih =>
    rw [Repository.firstKeyword] at h
    obtain ⟨keyword, hkeyword, h⟩ := parts_of_bind_eq_ok h
    have hv : v = .text keyword := by
      cases v with
      | text s => exact congrArg Value.text (Except.ok.inj hkeyword)
      | _ => cases hkeyword
    have hoccurs : (!(fold keyword).isEmpty && contains folded (fold keyword)) = true ↔
        fold keyword ≠ "" ∧ (fold keyword).toList <:+: folded.toList := by
      rw [Bool.and_eq_true, contains_iff]
      simp
    dsimp only at h
    rw [hv]
    split at h
    · next hfound =>
      obtain rfl := Except.ok.inj h
      exact iff_of_true rfl ⟨keyword, List.mem_cons_self, hoccurs.1 hfound⟩
    · next hmissing =>
      rw [ih h]
      constructor
      · rintro ⟨other, hother, hfound⟩
        exact ⟨other, List.mem_cons_of_mem _ hother, hfound⟩
      · rintro ⟨other, hother, hfound⟩
        rcases List.mem_cons.1 hother with hsame | hrest
        · obtain rfl := Value.text.inj hsame
          exact absurd (hoccurs.2 hfound) hmissing
        · exact ⟨other, hrest, hfound⟩

/-- An item whose keywords could be looked through is found where it has one that occurs in the text. -/
theorem foundBy_iff {found? : Option (String × String)}
    (h : Repository.firstKeyword (fold text) item.keywords = .ok found?) :
    item.FoundBy (fold text) ↔ ∃ form, item.Bears text form := by
  have hsome : item.FoundBy (fold text) ↔ found?.isSome = true := by
    rw [FoundBy, Option.isSome_iff_exists, h]
    simp only [Except.ok.injEq]
  rw [hsome, isSome_firstKeyword_iff h]
  constructor
  · rintro ⟨keyword, hkeyword, hform, hoccurs⟩
    exact ⟨fold keyword, hform, hoccurs, keyword, mem_spellings_iff.2 hkeyword, rfl⟩
  · rintro ⟨_, hform, hoccurs, keyword, hkeyword, rfl⟩
    exact ⟨keyword, mem_spellings_iff.1 hkeyword, hform, hoccurs⟩

end Item

namespace Repository

variable {r : Repository} {text : String} {entry : ScopedItem} {found : List ScopedItem}

section Scope

/-- What is in scope are the items kept that are forced or whose scope applies, at their own levels. -/
theorem mem_inScope_iff : entry ∈ r.inScope ↔ ∃ key item, (key, item) ∈ r.items ∧
    (item.forced = true ∨ item.scope.appliesAt (some item.anchor) r.position = true) ∧
      entry = { item, key, source := item.scope } := by
  rw [inScope, List.mem_filterMap]
  constructor
  · rintro ⟨⟨key, item⟩, hkept, hseen⟩
    obtain ⟨level, hlevel, rfl⟩ := Option.map_eq_some_iff.1 hseen
    obtain ⟨happlies, rfl⟩ := Item.levelAt_eq_some_iff.1 hlevel
    exact ⟨key, item, hkept, happlies, rfl⟩
  · rintro ⟨key, item, hkept, happlies, rfl⟩
    refine ⟨(key, item), hkept, Option.map_eq_some_iff.2 ⟨item.scope, ?_, rfl⟩⟩
    exact Item.levelAt_eq_some_iff.2 ⟨happlies, rfl⟩

/-- The items in scope are in the order in which they are kept. -/
theorem keys_inScope_sublist (r : Repository) : (r.inScope.map (·.key)).Sublist (Keyed.keys r.items) := by
  rw [inScope, Keyed.keys]
  induction r.items with
  | nil => exact List.Sublist.refl _
  | cons kept rest ih =>
    obtain ⟨key, item⟩ := kept
    rw [List.filterMap_cons]
    cases hlevel : item.levelAt r.position with
    | none =>
      simp only [seen?, hlevel, Option.map_none]
      exact ih.cons key
    | some level =>
      simp only [seen?, hlevel, Option.map_some]
      exact ih.cons_cons key

/-- Different items are kept under different keys, so that a key tells which item it is. -/
theorem eq_of_key_eq (hkeys : (Keyed.keys r.items).Nodup) {other : ScopedItem}
    (hentry : entry ∈ r.inScope) (hother : other ∈ r.inScope) (hkey : entry.key = other.key) :
    entry = other :=
  List.inj_on_of_nodup_map (hkeys.sublist r.keys_inScope_sublist) hentry hother hkey

end Scope

section Groups

theorem joinGroup_sublist {form keyword : String} {done : List ScopedItem}
    {groups : Keyed String (String × List ScopedItem)} (h : ∀ group ∈ groups, group.2.2.Sublist done) :
    ∀ group ∈ joinGroup form keyword entry groups, group.2.2.Sublist (done ++ [entry]) := by
  have hkept {others : List ScopedItem} (hothers : others.Sublist done) :
      others.Sublist (done ++ [entry]) :=
    hothers.trans (List.sublist_append_left done [entry])
  induction groups with
  | nil =>
    intro group hgroup
    obtain rfl := List.mem_singleton.1 hgroup
    exact List.sublist_append_right done [entry]
  | cons first rest ih =>
    rw [List.forall_mem_cons] at h
    rw [joinGroup_cons]
    split
    · refine List.forall_mem_cons.2 ⟨h.1.append (List.Sublist.refl [entry]), ?_⟩
      exact fun group hgroup => hkept (h.2 group hgroup)
    · exact List.forall_mem_cons.2 ⟨hkept h.1, ih h.2⟩

theorem parts_of_foldlM {folded : String} {items done : List ScopedItem}
    {start raw : Keyed String (String × List ScopedItem)}
    (h : items.foldlM (fun groups entry => do
      match ← firstKeyword folded entry.item.keywords with
      | some (form, keyword) => return joinGroup form keyword entry groups
      | none => return groups) start = .ok raw)
    (hstart : ∀ group ∈ start, group.2.2.Sublist done) :
    (∀ entry ∈ items, ∃ found?, firstKeyword folded entry.item.keywords = .ok found?) ∧
      ∀ group ∈ raw, group.2.2.Sublist (done ++ items) := by
  induction items generalizing start done with
  | nil =>
    obtain rfl := Except.ok.inj h
    rw [List.append_nil]
    exact ⟨by simp, hstart⟩
  | cons first rest ih =>
    rw [List.foldlM_cons] at h
    obtain ⟨next, hnext, h⟩ := parts_of_bind_eq_ok h
    obtain ⟨found?, hfound, hnext⟩ := parts_of_bind_eq_ok hnext
    have hjoined : ∀ group ∈ next, group.2.2.Sublist (done ++ [first]) := by
      cases found? with
      | none =>
        obtain rfl := Except.ok.inj hnext
        intro group hgroup
        exact (hstart group hgroup).trans (List.sublist_append_left done [first])
      | some found =>
        obtain rfl := Except.ok.inj hnext
        exact joinGroup_sublist hstart
    obtain ⟨hread, hgroups⟩ := ih h hjoined
    rw [List.append_assoc, List.singleton_append] at hgroups
    exact ⟨List.forall_mem_cons.2 ⟨⟨found?, hfound⟩, hread⟩, hgroups⟩

/-- Where the groups of a folded text are found, the keywords of all items could be looked through, and the
items of a group are in the order in which all items are. -/
theorem parts_of_groups {folded : String} {items : List ScopedItem}
    {raw : Keyed String (String × List ScopedItem)} (h : groups folded items = .ok raw) :
    (∀ entry ∈ items, ∃ found?, firstKeyword folded entry.item.keywords = .ok found?) ∧
      ∀ group ∈ raw, group.2.2.Sublist items := by
  have hstart : ∀ group ∈ ([] : Keyed String (String × List ScopedItem)), group.2.2.Sublist [] := nofun
  exact parts_of_foldlM h hstart

/-- Whenever the groups of a text are found, it finds the items in scope with a keyword that occurs in
it. -/
theorem foundBy_iff_of_mentioned {groups : List KeywordGroup} (h : r.mentioned text = .ok groups)
    (hentry : entry ∈ r.inScope) :
    entry.item.FoundBy (fold text) ↔ ∃ form, entry.item.Bears text form := by
  obtain ⟨raw, hraw, -⟩ := parts_of_mentioned h
  obtain ⟨hread, -⟩ := parts_of_groups hraw
  obtain ⟨found?, hfound⟩ := hread entry hentry
  exact Item.foundBy_iff hfound

/-- The items of a group are some of the items in scope, put in order. -/
theorem exists_sublist_of_mentioned {groups : List KeywordGroup} (h : r.mentioned text = .ok groups)
    {group : KeywordGroup} (hgroup : group ∈ groups) :
    ∃ items, items.Sublist r.inScope ∧ group.items = ScopedItem.sortByScope (r.applyOverrides items) := by
  obtain ⟨raw, hraw, hresolved⟩ := parts_of_mentioned h
  obtain ⟨-, hsublists⟩ := parts_of_groups hraw
  obtain ⟨i, hi, rfl⟩ := List.getElem_of_mem hgroup
  have hi' : i < raw.length := hresolved.length_eq ▸ hi
  exact ⟨raw[i].2.2, hsublists _ (List.getElem_mem hi'), hresolved.get hi' hi⟩

end Groups

/-- What goes with a text. -/
structure GoesWith (r : Repository) (text : String) (found : List ScopedItem) : Prop where
  /-- No item is there twice. -/
  once : (found.map (·.key)).Nodup
  /-- An item that is kept is there exactly where it is called for. -/
  complete : ∀ key item, (key, item) ∈ r.items →
    ((∃ entry ∈ found, entry.key = key ∧ entry.item = item) ↔ item.CalledFor r.position text)
  /-- Only items that are kept are there, at their own levels or those that workbooks set for them, -/
  levels : ∀ entry ∈ found, (entry.key, entry.item) ∈ r.items ∧
    r.Overridden { item := entry.item, key := entry.key, source := entry.item.scope } entry
  /-- in reading order, -/
  sorted : found.Pairwise fun a b => a.rank ≤ b.rank
  /-- and those that are equally specific are in the order in which they are kept. -/
  ties : ∀ n, ((found.filter fun entry => entry.rank = n).map (·.key)).Sublist (Keyed.keys r.items)
  /-- The items of each group of the text are there in the order that they have in the group. -/
  groups : ∀ groups, r.mentioned text = .ok groups → ∀ group ∈ groups, group.items.Sublist found

section Relevant

/-- What a text finds in scope is called for by it. -/
theorem calledFor_of_foundBy {groups : List KeywordGroup} (h : r.mentioned text = .ok groups)
    (hentry : entry ∈ r.inScope) (hfound : entry.item.FoundBy (fold text)) :
    entry.item.CalledFor r.position text := by
  have hbears := (foundBy_iff_of_mentioned h hentry).1 hfound
  obtain ⟨key, item, -, hseen, rfl⟩ := mem_inScope_iff.1 hentry
  exact hseen.imp_right fun happlies => ⟨happlies, hbears⟩

/-- What goes with a text are the items in scope that are called for, put in order. -/
theorem exists_relevant_eq (hkeys : (Keyed.keys r.items).Nodup) (h : r.relevant text = .ok found) :
    ∃ p : ScopedItem → Bool,
      found = ScopedItem.sortByScope (r.applyOverrides (r.inScope.filter p)) ∧
      ∀ entry ∈ r.inScope, p entry = true ↔ entry.item.CalledFor r.position text := by
  obtain ⟨groups, hgroups, h⟩ := parts_of_bind_eq_ok h
  refine ⟨_, (Except.ok.inj h).symm, ?_⟩
  intro entry hentry
  rw [Bool.or_eq_true, contains_mentioned_iff hgroups]
  constructor
  · rintro (hforced | ⟨other, hother, hfound, hkey⟩)
    · exact Or.inl hforced
    · obtain rfl := eq_of_key_eq hkeys hother hentry hkey
      exact calledFor_of_foundBy hgroups hother hfound
  · rintro (hforced | ⟨-, hbears⟩)
    · exact Or.inl hforced
    · exact Or.inr ⟨_, hentry, (foundBy_iff_of_mentioned hgroups hentry).2 hbears, rfl⟩

theorem goesWith_of_relevant (hkeys : (Keyed.keys r.items).Nodup) (h : r.relevant text = .ok found) :
    r.GoesWith text found := by
  obtain ⟨p, rfl, hp⟩ := exists_relevant_eq hkeys h
  have hmem (entry : ScopedItem) :
      entry ∈ ScopedItem.sortByScope (r.applyOverrides (r.inScope.filter p)) ↔
        ∃ kept ∈ r.inScope, p kept = true ∧ r.override kept = entry := by
    rw [(ScopedItem.perm_sortByScope _).mem_iff, applyOverrides, List.mem_map]
    simp only [List.mem_filter, and_assoc]
  have hstored : ((r.applyOverrides (r.inScope.filter p)).map (·.key)).Sublist (Keyed.keys r.items) := by
    rw [r.map_applyOverrides r.override_key]
    exact (List.filter_sublist.map _).trans r.keys_inScope_sublist
  refine ⟨?_, ?_, ?_, ScopedItem.pairwise_sortByScope _, ?_, ?_⟩
  · exact ((ScopedItem.perm_sortByScope _).map _).nodup_iff.2 (hkeys.sublist hstored)
  · intro key item hkept
    constructor
    · rintro ⟨entry, hentry, -, rfl⟩
      obtain ⟨kept, hscope, hcalled, rfl⟩ := (hmem entry).1 hentry
      rw [override_item]
      exact (hp kept hscope).1 hcalled
    · intro hcalled
      have hscope : { item, key, source := item.scope } ∈ r.inScope :=
        mem_inScope_iff.2 ⟨key, item, hkept, hcalled.imp_right And.left, rfl⟩
      refine ⟨_, (hmem _).2 ⟨_, hscope, (hp _ hscope).2 hcalled, rfl⟩, ?_, ?_⟩
      · exact r.override_key _
      · exact r.override_item _
  · intro entry hentry
    obtain ⟨kept, hscope, -, rfl⟩ := (hmem entry).1 hentry
    have hset := r.overridden_override kept
    obtain ⟨key, item, hkept, -, rfl⟩ := mem_inScope_iff.1 hscope
    rw [override_key, override_item]
    exact ⟨hkept, hset⟩
  · intro n
    rw [ScopedItem.filter_sortByScope]
    exact (List.filter_sublist.map _).trans hstored
  · intro groups hgroups group hgroup
    obtain ⟨items, hitems, hsorted⟩ := exists_sublist_of_mentioned hgroups hgroup
    have hcalled : ∀ entry ∈ items, p entry = true := by
      intro entry hentry
      have hmember : r.override entry ∈ group.items := by
        rw [hsorted, (ScopedItem.perm_sortByScope _).mem_iff]
        exact List.mem_map_of_mem hentry
      obtain ⟨kept, hscope, hfound, hsame⟩ := (mem_mentioned_iff hgroups).1 ⟨group, hgroup, hmember⟩
      have hkey : kept.key = entry.key := by
        rw [← r.override_key kept, hsame, r.override_key]
      obtain rfl := eq_of_key_eq hkeys hscope (hitems.subset hentry) hkey
      exact (hp kept hscope).2 (calledFor_of_foundBy hgroups hscope hfound)
    have hsub : items.Sublist (r.inScope.filter p) := by
      rw [← List.filter_eq_self.2 hcalled]
      exact hitems.filter p
    rw [hsorted]
    exact ScopedItem.sublist_sortByScope (hsub.map r.override)

/-- What goes with a text are the items that are forced, and those in scope that the text mentions. Whenever
they are found, each item that is kept is there once if it is called for and not at all if it is not; they
are in reading order, and in the order of every group of the text. They are found where the keywords and
contents of the items in scope are texts. -/
theorem relevant_exact (r : Repository) (text : String) (hkeys : (Keyed.keys r.items).Nodup) :
    (∀ found, r.relevant text = .ok found → r.GoesWith text found) ∧
    ((∀ entry ∈ r.inScope, entry.item.Textual) → ∃ found, r.relevant text = .ok found) :=
  ⟨fun _ hfound => goesWith_of_relevant hkeys hfound,
    fun htextual => exists_relevant (r.mentioned_eq text htextual)⟩

def quay : Item :=
  { Item.named (.text "Quay") 0 with keywords := [.text "Wharf"], forced := true, scope := .shelf }

def quays : Repository where
  items := [
    ("mill", { Item.named (.text "Mill") 0 with keywords := [.text "wharf"], tags := [.text "old"] }),
    ("quay", quay),
    ("lamp", { Item.named (.text "Lamp") 0 with
      keywords := [.text "lamp"], scope := .book
      anchor := { shelf := .text "coast", book := .text "tides" } })]
  workbooks := [{ Workbook.named (.text "Ruins") 0 with
    tags := [.text "old"], masterScope := some .chapter }]
  position := { shelf := .text "coast" }

theorem relevant_exact_quays : (Keyed.keys quays.items).Nodup ∧
    (∀ entry ∈ quays.inScope, entry.item.Textual) ∧
    ∃ found, quays.relevant "A lamp on the WHARF." = .ok found ∧ (found.map (·.key)).Nodup ∧
      ∃ entry ∈ found, entry.key = "quay" ∧ entry.item = quay := by
  have hkeys : (Keyed.keys quays.items).Nodup := by decide
  have htextual : ∀ entry ∈ quays.inScope, entry.item.Textual := by
    intro entry hentry
    have hcases : entry ∈ [_, _] := hentry
    rcases List.mem_pair.1 hcases with rfl | rfl
    · exact ⟨by simp, _, rfl⟩
    · exact ⟨by simp [quay], _, rfl⟩
  obtain ⟨hexact, hreturns⟩ := relevant_exact quays "A lamp on the WHARF." hkeys
  obtain ⟨found, hfound⟩ := hreturns htextual
  have hgoes := hexact found hfound
  have hkept : ("quay", quay) ∈ quays.items := List.mem_cons_of_mem _ List.mem_cons_self
  exact ⟨hkeys, htextual, found, hfound, hgoes.once, (hgoes.complete "quay" quay hkept).2 (Or.inl rfl)⟩

end Relevant

end Repository

end TaleLoom
