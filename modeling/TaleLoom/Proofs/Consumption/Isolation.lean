import TaleLoom.Proofs.Consumption.Records
/-!
Whose draws a step of a consumption store touches. A record is kept under one text that joins the
table's name and the story, so two pairs share their draws where that text can be cut in two places.
The draws of a pair are its own, in every state that a store can get into, exactly where no other pair
joins to the same text.
-/

namespace TaleLoom.ConsumptionStore

open Text

section Keys

def Overlaps (table story table' story' : String) : Prop :=
  ∃ middle, lower table' = lower table ++ "_" ++ middle ∧ story = middle ++ "_" ++ story'

def Clash (table story table' story' : String) : Prop :=
  Overlaps table story table' story' ∨ Overlaps table' story' table story

def SamePair (table story table' story' : String) : Prop :=
  lower table = lower table' ∧ story = story'

theorem key_eq_of_overlaps {table story table' story' : String}
    (h : Overlaps table story table' story') : key table story = key table' story' := by
  obtain ⟨middle, hname, rfl⟩ := h
  simp only [key, hname, String.append_assoc]

theorem overlaps_of_append {a b c d : List Char} {table story table' story' : String}
    (ha : (lower table).toList = a) (hb : '_' :: story.toList = b) (hc : (lower table').toList = c)
    (hd : '_' :: story'.toList = d) (rest : List Char) (hac : c = a ++ rest) (hbd : b = rest ++ d) :
    SamePair table story table' story' ∨ Overlaps table story table' story' := by
  subst ha hb hc hd
  cases rest with
  | nil =>
    simp only [List.append_nil] at hac
    simp only [List.nil_append, List.cons.injEq, true_and] at hbd
    exact Or.inl ⟨(String.toList_inj.1 hac).symm, String.toList_inj.1 hbd⟩
  | cons mark middle =>
    simp only [List.cons_append, List.cons.injEq] at hbd
    obtain ⟨rfl, hstory⟩ := hbd
    refine Or.inr ⟨String.ofList middle, String.toList_inj.1 ?_, String.toList_inj.1 ?_⟩
    · simpa [String.toList_append] using hac
    · simpa [String.toList_append] using hstory

/-- Two pairs have one key exactly when they are the same pair or clash. -/
theorem key_eq_key_iff {table story table' story' : String} :
    key table story = key table' story' ↔
      SamePair table story table' story' ∨ Clash table story table' story' := by
  constructor
  · intro h
    have hlists : (lower table).toList ++ '_' :: story.toList =
        (lower table').toList ++ '_' :: story'.toList := by
      simpa [key, String.toList_append, List.append_assoc] using congrArg String.toList h
    -- one of the two names is the longer one, and what it has more is at the front of a story
    rcases List.append_eq_append_iff.1 hlists with ⟨rest, hname, hstory⟩ | ⟨rest, hname, hstory⟩
    · rcases overlaps_of_append rfl rfl rfl rfl rest hname hstory with hsame | hover
      · exact Or.inl hsame
      · exact Or.inr (Or.inl hover)
    · rcases overlaps_of_append rfl rfl rfl rfl rest hname hstory with hsame | hover
      · exact Or.inl ⟨hsame.1.symm, hsame.2.symm⟩
      · exact Or.inr (Or.inr hover)
  · rintro (⟨hname, rfl⟩ | hover | hover)
    · simp only [key, hname]
    · exact key_eq_of_overlaps hover
    · exact (key_eq_of_overlaps hover).symm

example : Clash "a_b" "c" "a" "b_c" := Or.inr ⟨"b", by decide +kernel, by decide +kernel⟩

/-- Pairs that clash are not the same: the longer name shows it. -/
theorem not_samePair_of_clash {table story table' story' : String}
    (h : Clash table story table' story') : ¬ SamePair table story table' story' := by
  rintro ⟨hname, -⟩
  rcases h with ⟨middle, hm, -⟩ | ⟨middle, hm, -⟩
  all_goals
    have hlen := congrArg String.length hm
    rw [hname] at hlen
    simp only [String.length_append] at hlen
    have hmark : "_".length = 1 := rfl
    omega

end Keys

structure WellFiled (store : ConsumptionStore) : Prop where
  nodup : (Keyed.keys store.records).Nodup
  filed : ∀ k r, (k, r) ∈ store.records → k = key r.table r.story

namespace WellFiled

variable {store : ConsumptionStore}

theorem sublist (h : store.WellFiled) {records : Keyed String ConsumedRecord}
    (hs : records.Sublist store.records) : (store.withRecords records).WellFiled where
  nodup := Keyed.nodup_keys_of_sublist hs h.nodup
  filed k r hmem := h.filed k r (hs.subset hmem)

theorem key_recordOf (h : store.WellFiled) (table story : String) :
    key (store.recordOf table story).table (store.recordOf table story).story = key table story := by
  unfold recordOf
  cases hg : Keyed.get? (key table story) store.records with
  | none => rfl
  | some r => exact (h.filed _ r (Keyed.mem_of_get? hg)).symm

theorem set (h : store.WellFiled) (table story entry : String) :
    (store.withRecords (Keyed.set (key table story) (store.recordWith table story entry)
      store.records)).WellFiled where
  nodup := Keyed.nodup_keys_set _ h.nodup
  filed k r hmem := by
    rcases Keyed.mem_set hmem with heq | hold
    · obtain ⟨rfl, rfl⟩ := Prod.mk.inj heq
      exact (h.key_recordOf table story).symm
    · exact h.filed k r hold

end WellFiled

/-- The states that a store can get into: empty at first, then by its steps in any order, whether or
not they fail. Anything else leaves the records as they are; a file that is opened again holds the
records that were last written. -/
inductive Reached : Scene → Prop
  | fresh (scene : Scene) : scene.store.records = [] → Reached scene
  | mark {scene : Scene} (table : Value) (story entry : String) :
      Reached scene → Reached ((markConsumed table story entry).after scene)
  | available {scene : Scene} (table : RandomTable) (story : String) :
      Reached scene → Reached ((available table story).after scene)
  | reset {scene : Scene} (table : Value) (story : Option String) :
      Reached scene → Reached ((reset table story).after scene)
  | resetStory {scene : Scene} (story : String) :
      Reached scene → Reached ((resetStory story).after scene)
  | elsewhere {scene scene' : Scene} :
      Reached scene → scene'.store.records = scene.store.records → Reached scene'

theorem wellFiled_of_reached {scene : Scene} (h : Reached scene) : scene.store.WellFiled := by
  induction h with
  | fresh scene hempty => exact ⟨by simp [hempty, Keyed.keys], by simp [hempty]⟩
  | @mark scene table story entry _ ih =>
    rcases asText_cases table with ⟨name, rfl⟩ | hname
    · rw [store_markConsumed]
      split
      · exact ih
      · exact ih.set name story entry
    · rwa [show (markConsumed table story entry).after scene = scene from after_of_asText_error hname]
  | @available scene table story _ ih =>
    rcases asText_cases table.name with ⟨name, hname⟩ | hname
    · rw [store_available scene name story table hname]
      split
      · exact ih.sublist (Keyed.erase_sublist _ _)
      · exact ih
    · rwa [show (available table story).after scene = scene from after_of_asText_error hname]
  | @reset scene table story _ ih =>
    cases hkept : recordsWithout table scene.store.records story with
    | ok kept =>
      rw [store_reset_of_ok scene hkept]
      exact ih.sublist (recordsWithout_sublist hkept)
    | error fault => rwa [after_reset_of_error scene hkept]
  | @resetStory scene story _ ih =>
    rw [store_resetStory]
    exact ih.sublist List.filter_sublist
  | elsewhere _ hrecords ih => exact ⟨hrecords ▸ ih.nodup, hrecords ▸ ih.filed⟩

/-- In a state, no step for another pair touches what a pair has drawn, whether or not the step fails;
and forgetting its story, or its table, leaves the pair nothing. -/
structure Isolated (table story : String) (scene : Scene) : Prop where
  mark : ∀ table' story' entry, ¬ SamePair table' story' table story →
    ((markConsumed (.text table') story' entry).after scene).store.items table story =
      scene.store.items table story
  available : ∀ (source : RandomTable) (table' story' : String), source.name = .text table' →
    ¬ SamePair table' story' table story →
    ((ConsumptionStore.available source story').after scene).store.items table story =
      scene.store.items table story
  reset : ∀ table' story', ¬ SamePair table' story' table story →
    ((ConsumptionStore.reset (.text table') (some story')).after scene).store.items table story =
      scene.store.items table story
  resetStory : ((ConsumptionStore.resetStory story).after scene).store.items table story = []
  resetOtherStory : ∀ story', story' ≠ story →
    ((ConsumptionStore.resetStory story').after scene).store.items table story =
      scene.store.items table story
  resetTable :
    ((ConsumptionStore.reset (.text table) none).after scene).store.items table story = []
  resetOtherTable : ∀ table', lower table' ≠ lower table →
    ((ConsumptionStore.reset (.text table') none).after scene).store.items table story =
      scene.store.items table story

section Items

variable {store : ConsumptionStore} {table story : String}

theorem items_set_of_ne {k : String} (r : ConsumedRecord) (h : k ≠ key table story) :
    (store.withRecords (Keyed.set k r store.records)).items table story =
      store.items table story := by
  simp only [items_eq, withRecords, Keyed.get?_set, beq_iff_eq, h, if_false]

theorem items_erase_of_ne {k : String} (h : k ≠ key table story) :
    (store.withRecords (Keyed.erase k store.records)).items table story =
      store.items table story := by
  simp only [items_eq, withRecords, Keyed.get?_erase_of_ne h]

theorem items_filter (h : store.WellFiled) (kept : ConsumedRecord → Bool) :
    (store.withRecords (store.records.filter fun (_, r) => kept r)).items table story =
      if kept (store.recordOf table story) then store.items table story else [] := by
  simp only [items_eq, withRecords, recordOf, Keyed.get?_filter h.nodup]
  rcases Option.eq_none_or_eq_some (Keyed.get? (key table story) store.records) with hg | ⟨r, hg⟩
  · simp [hg]
  · by_cases hk : kept r = true <;> simp [hg, Option.filter_some, hk]

/-- The record of a pair that no other pair clashes with is its own. -/
theorem samePair_recordOf (h : store.WellFiled)
    (hclash : ∀ table' story', ¬ Clash table' story' table story) :
    SamePair (store.recordOf table story).table (store.recordOf table story).story table story :=
  (key_eq_key_iff.1 (h.key_recordOf table story)).resolve_right (hclash _ _)

end Items

theorem isolated_of_no_clash {scene : Scene} {table story : String} (h : scene.store.WellFiled)
    (hclash : ∀ table' story', ¬ Clash table' story' table story) :
    Isolated table story scene := by
  have hkey (table' story' : String) (hne : ¬ SamePair table' story' table story) :
      key table' story' ≠ key table story :=
    fun heq => (key_eq_key_iff.1 heq).elim hne (hclash table' story')
  have hown := samePair_recordOf h hclash
  constructor
  case mark =>
    intro table' story' entry hne
    rw [store_markConsumed]
    split
    · rfl
    · exact items_set_of_ne _ (hkey table' story' hne)
  case available =>
    intro source table' story' hname hne
    rw [store_available scene table' story' source hname]
    split
    · exact items_erase_of_ne (hkey table' story' hne)
    · rfl
  case reset =>
    intro table' story' hne
    rw [store_reset]
    exact items_erase_of_ne (hkey table' story' hne)
  case resetStory =>
    rw [store_resetStory, items_filter h fun r => r.story != story]
    simp [hown.2]
  case resetOtherStory =>
    intro story' hne
    rw [store_resetStory, items_filter h fun r => r.story != story']
    simp [hown.2, Ne.symm hne]
  case resetTable =>
    rw [store_reset, keptAfterReset, items_filter h fun r => lower r.table != lower table]
    simp [hown.1]
  case resetOtherTable =>
    intro table' hne
    rw [store_reset, keptAfterReset, items_filter h fun r => lower r.table != lower table']
    simp [hown.1, Ne.symm hne]

theorem items_markConsumed_of_clash {scene : Scene} {table story table' story' : String}
    (h : Clash table' story' table story) (hempty : scene.store.records = []) (entry : String) :
    ((markConsumed (.text table') story' entry).after scene).store.items table story = [entry] := by
  have hitems : scene.store.items table' story' = [] := by simp [items_eq, hempty, Keyed.get?]
  rw [store_markConsumed, if_neg (by simp [hitems]), items_eq,
    ← key_eq_key_iff.2 (Or.inr h), withRecords, Keyed.get?_set]
  simp [recordWith, hitems]

/-- The draws of a pair are isolated from those of every other pair, in every state that a store can
get into, exactly where no other pair clashes with it. -/
theorem isolated_iff_no_clash (table story : String) :
    (∀ scene, Reached scene → Isolated table story scene) ↔
      ∀ table' story', ¬ Clash table' story' table story := by
  constructor
  · intro h table' story' hclash
    have hempty : Scene.blank.store.records = [] := rfl
    have hkept := (h .blank (.fresh .blank hempty)).mark table' story' "x"
      (not_samePair_of_clash hclash)
    rw [items_markConsumed_of_clash hclash hempty "x", items_eq, hempty] at hkept
    cases hkept
  · intro hclash scene hreached
    exact isolated_of_no_clash (wellFiled_of_reached hreached) hclash

end TaleLoom.ConsumptionStore
