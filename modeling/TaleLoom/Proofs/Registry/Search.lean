import Mathlib.Data.Prod.Lex
import Mathlib.Order.Bounds.Basic
import TaleLoom.Proofs.Registry.Lookup
import TaleLoom.Proofs.Value.Same
/-!
Which table a lookup gives. A lookup compares at places: in each collection it goes through the ways of
comparing, and for each way through the entries. The least place that does not come out empty decides
(`Lookup.ordered`). Names that are the same but for letter case fit in the same collections, so their
lookups agree where both come to an answer (`Lookup.agree_of_fold`).
-/

namespace TaleLoom

open Text

namespace Lookup

section Scanning

variable {α β : Type}

def firstOf (f : β → Except Fault (Option α)) : List β → Except Fault (Option α)
  | [] => .ok none
  | b :: rest =>
    match f b with
    | .ok none => firstOf f rest
    | decided => decided

variable {f : β → Except Fault (Option α)} {b : β} {rest l : List β} {r : Except Fault (Option α)}

theorem firstOf_cons_none (h : f b = .ok none) : firstOf f (b :: rest) = firstOf f rest := by
  rw [firstOf, h]

theorem firstOf_cons_decided (h : f b ≠ .ok none) : firstOf f (b :: rest) = f b := by
  rw [firstOf]
  split
  · next hnone => exact absurd hnone h
  · rfl

theorem firstOf_eq_none_iff : firstOf f l = .ok none ↔ ∀ b ∈ l, f b = .ok none := by
  induction l with
  | nil => simp [firstOf]
  | cons b rest ih =>
    rw [List.forall_mem_cons, ← ih]
    by_cases hb : f b = .ok none
    · simp only [firstOf_cons_none hb, hb, true_and]
    · simp only [firstOf_cons_decided hb, hb, false_and]

/-- What does not come out empty is decided at a position before which everything does. -/
theorem exists_of_firstOf (hr : r ≠ .ok none) (h : firstOf f l = r) :
    ∃ (i : ℕ) (b : β), l[i]? = some b ∧ f b = r ∧
      ∀ (j : ℕ) (c : β), j < i → l[j]? = some c → f c = .ok none := by
  induction l with
  | nil => exact absurd h.symm hr
  | cons b rest ih =>
    by_cases hb : f b = .ok none
    · rw [firstOf_cons_none hb] at h
      obtain ⟨i, d, hd, hfd, hbefore⟩ := ih h
      refine ⟨i + 1, d, hd, hfd, fun j c hj hc => ?_⟩
      cases j with
      | zero =>
        cases hc
        exact hb
      | succ j => exact hbefore j c (Nat.lt_of_succ_lt_succ hj) hc
    · rw [firstOf_cons_decided hb] at h
      exact ⟨0, b, rfl, h, fun j c hj => absurd hj (Nat.not_lt_zero j)⟩

theorem firstOf_map {γ : Type} (g : γ → β) (l : List γ) :
    firstOf f (l.map g) = firstOf (fun c => f (g c)) l := by
  induction l with
  | nil => rfl
  | cons c rest ih =>
    rw [List.map_cons, firstOf, firstOf, ih]

end Scanning

section Places

@[ext]
structure Place where
  collection : ℕ
  way : ℕ
  entry : ℕ

namespace Place

def rank (p : Place) : ℕ ×ₗ ℕ ×ₗ ℕ := toLex (p.collection, toLex (p.way, p.entry))

theorem rank_injective : Function.Injective rank := by
  intro p q h
  simpa [rank, Place.ext_iff] using h

instance : LinearOrder Place := LinearOrder.lift' rank rank_injective

theorem lt_iff {p q : Place} : p < q ↔ p.collection < q.collection ∨
    p.collection = q.collection ∧ (p.way < q.way ∨ p.way = q.way ∧ p.entry < q.entry) := by
  have hrank : p < q ↔ rank p < rank q := Iff.rfl
  simp only [hrank, rank, Prod.Lex.toLex_lt_toLex]

theorem collection_le {p q : Place} (h : p ≤ q) : p.collection ≤ q.collection := by
  by_contra hlt
  exact absurd (lt_iff.2 (Or.inl (Nat.lt_of_not_le hlt))) (not_lt_of_ge h)

theorem first_of_le {p q : Place} (h : p ≤ q) (hfirst : q.collection = 0) : p.collection = 0 :=
  Nat.le_zero.1 (hfirst ▸ collection_le h)

end Place

end Places

/-- A way in which a name can fit the key and the table of an entry; the comparison may fail. -/
abbrev Way (α : Type) := String → Value → α → Except Fault Bool

section Searching

variable {α : Type} {ways : List (Way α)} {name : String} {collections : List (Keyed Value α)}

def outcome (way : Way α) (name : String) (entry : Value × α) : Except Fault (Option α) :=
  (way name entry.1 entry.2).map fun fits => if fits then some entry.2 else none

/-- Looks a name, without the white space around it, up in collections: in each of them in one way
after another, and for each way among the entries in their order. -/
def search (ways : List (Way α)) (name : String) (collections : List (Keyed Value α)) :
    Except Fault (Option α) :=
  firstOf (fun collection =>
    firstOf (fun way => firstOf (outcome way (strip name)) collection) ways) collections

def outcomeAt (ways : List (Way α)) (name : String) (collections : List (Keyed Value α)) (p : Place) :
    Option (Except Fault (Option α)) := do
  let collection ← collections[p.collection]?
  let way ← ways[p.way]?
  let entry ← collection[p.entry]?
  return outcome way (strip name) entry

theorem outcomeAt_eq_some_iff {p : Place} {r : Except Fault (Option α)} :
    outcomeAt ways name collections p = some r ↔
      ∃ collection way entry, collections[p.collection]? = some collection ∧
        ways[p.way]? = some way ∧ collection[p.entry]? = some entry ∧
        outcome way (strip name) entry = r := by
  simp only [outcomeAt, Option.bind_eq_bind, Option.bind_eq_some_iff, Option.pure_def,
    Option.some.injEq]
  constructor
  · rintro ⟨collection, hcollection, way, hway, entry, hentry, hr⟩
    exact ⟨collection, way, entry, hcollection, hway, hentry, hr⟩
  · rintro ⟨collection, way, entry, hcollection, hway, hentry, hr⟩
    exact ⟨collection, hcollection, way, hway, entry, hentry, hr⟩

def hits (ways : List (Way α)) (name : String) (collections : List (Keyed Value α)) : Set Place :=
  {p | ∃ a, outcomeAt ways name collections p = some (.ok (some a))}

def failures (ways : List (Way α)) (name : String) (collections : List (Keyed Value α)) : Set Place :=
  {p | ∃ fault, outcomeAt ways name collections p = some (.error fault)}

theorem search_eq_none_iff :
    search ways name collections = .ok none ↔
      ∀ p r, outcomeAt ways name collections p = some r → r = .ok none := by
  simp only [search, firstOf_eq_none_iff]
  constructor
  · intro h p r hp
    obtain ⟨collection, way, entry, hcollection, hway, hentry, rfl⟩ := outcomeAt_eq_some_iff.1 hp
    exact h collection (List.mem_of_getElem? hcollection) way (List.mem_of_getElem? hway) entry
      (List.mem_of_getElem? hentry)
  · intro h collection hcollection way hway entry hentry
    obtain ⟨i, hi⟩ := List.mem_iff_getElem?.1 hcollection
    obtain ⟨j, hj⟩ := List.mem_iff_getElem?.1 hway
    obtain ⟨k, hk⟩ := List.mem_iff_getElem?.1 hentry
    exact h ⟨i, j, k⟩ _ (outcomeAt_eq_some_iff.2 ⟨collection, way, entry, hi, hj, hk, rfl⟩)

/-- A search that does not come out empty is decided at a place before which every comparison does. -/
theorem exists_of_search {r : Except Fault (Option α)} (hr : r ≠ .ok none)
    (h : search ways name collections = r) :
    ∃ p, outcomeAt ways name collections p = some r ∧
      ∀ q s, q < p → outcomeAt ways name collections q = some s → s = .ok none := by
  obtain ⟨i, collection, hi, hcollection, hbefore⟩ := exists_of_firstOf hr h
  obtain ⟨j, way, hj, hway, hbeforeWay⟩ := exists_of_firstOf hr hcollection
  obtain ⟨k, entry, hk, hentry, hbeforeEntry⟩ := exists_of_firstOf hr hway
  refine ⟨⟨i, j, k⟩, outcomeAt_eq_some_iff.2 ⟨collection, way, entry, hi, hj, hk, hentry⟩, ?_⟩
  intro q s hlt hq
  obtain ⟨collection', way', entry', hi', hj', hk', rfl⟩ := outcomeAt_eq_some_iff.1 hq
  -- an earlier collection, or an earlier way in this one, or an earlier entry for this way
  rcases Place.lt_iff.1 hlt with hless | ⟨hsame, hless | ⟨hsameWay, hless⟩⟩
  · have hempty := firstOf_eq_none_iff.1 (hbefore q.collection collection' hless hi') way'
      (List.mem_of_getElem? hj')
    exact firstOf_eq_none_iff.1 hempty entry' (List.mem_of_getElem? hk')
  · obtain rfl : collection = collection' := by
      rw [hsame] at hi'
      exact Option.some.inj (hi.symm.trans hi')
    have hempty := hbeforeWay q.way way' hless hj'
    exact firstOf_eq_none_iff.1 hempty entry' (List.mem_of_getElem? hk')
  · obtain rfl : collection = collection' := by
      rw [hsame] at hi'
      exact Option.some.inj (hi.symm.trans hi')
    obtain rfl : way = way' := by
      rw [hsameWay] at hj'
      exact Option.some.inj (hj.symm.trans hj')
    exact hbeforeEntry q.entry entry' hless hk'

/-- The order of a search. It gives the table at the least place where the name fits, if no comparison
fails before that place; it gives none exactly where the name fits nowhere and no comparison fails; and
it fails exactly where a comparison fails before every place where the name fits. -/
structure Ordered (ways : List (Way α)) (name : String) (collections : List (Keyed Value α)) :
    Prop where
  finds : ∀ a, search ways name collections = .ok (some a) ↔
    ∃ p, IsLeast (hits ways name collections) p ∧
      outcomeAt ways name collections p = some (.ok (some a)) ∧
      ∀ q ∈ failures ways name collections, p < q
  findsNone : search ways name collections = .ok none ↔
    hits ways name collections = ∅ ∧ failures ways name collections = ∅
  fails : (∃ fault, search ways name collections = .error fault) ↔
    ∃ q ∈ failures ways name collections, ∀ p ∈ hits ways name collections, q < p

theorem decided_of_not_mem {p : Place} {r : Except Fault (Option α)}
    (h : outcomeAt ways name collections p = some r) (hhit : p ∉ hits ways name collections)
    (hfailure : p ∉ failures ways name collections) : r = .ok none := by
  cases r with
  | error fault => exact absurd ⟨fault, h⟩ hfailure
  | ok found =>
    cases found with
    | none => rfl
    | some a => exact absurd ⟨a, h⟩ hhit

/-- A place that is decided is not before the place that decides the search. -/
theorem le_of_decided {p q : Place} {s : Except Fault (Option α)} (hs : s ≠ .ok none)
    (hbefore : ∀ q s, q < p → outcomeAt ways name collections q = some s → s = .ok none)
    (hq : outcomeAt ways name collections q = some s) : p ≤ q := by
  by_contra hlt
  exact hs (hbefore q s (lt_of_not_ge hlt) hq)

theorem hit_ne_failure {p q : Place} (hp : p ∈ hits ways name collections)
    (hq : q ∈ failures ways name collections) : p ≠ q := by
  rintro rfl
  obtain ⟨a, ha⟩ := hp
  obtain ⟨fault, hfault⟩ := hq
  cases ha.symm.trans hfault

theorem least_of_search {a : α} (h : search ways name collections = .ok (some a)) :
    ∃ p, IsLeast (hits ways name collections) p ∧
      outcomeAt ways name collections p = some (.ok (some a)) ∧
      ∀ q ∈ failures ways name collections, p < q := by
  obtain ⟨p, hp, hbefore⟩ := exists_of_search (by simp) h
  have hhit : p ∈ hits ways name collections := ⟨a, hp⟩
  refine ⟨p, ⟨hhit, ?_⟩, hp, ?_⟩
  · rintro q ⟨b, hq⟩
    exact le_of_decided (by simp) hbefore hq
  · rintro q ⟨fault, hq⟩
    have hle : p ≤ q := le_of_decided (by simp) hbefore hq
    exact lt_of_le_of_ne hle (hit_ne_failure hhit ⟨fault, hq⟩)

theorem failure_of_search {fault : Fault} (h : search ways name collections = .error fault) :
    ∃ q ∈ failures ways name collections, ∀ p ∈ hits ways name collections, q < p := by
  obtain ⟨q, hq, hbefore⟩ := exists_of_search (by simp) h
  have hfailure : q ∈ failures ways name collections := ⟨fault, hq⟩
  refine ⟨q, hfailure, ?_⟩
  rintro p ⟨a, hp⟩
  have hle : q ≤ p := le_of_decided (by simp) hbefore hp
  exact lt_of_le_of_ne hle (hit_ne_failure ⟨a, hp⟩ hfailure).symm

theorem search_eq_none_iff_empty : search ways name collections = .ok none ↔
    hits ways name collections = ∅ ∧ failures ways name collections = ∅ := by
  simp only [search_eq_none_iff, Set.eq_empty_iff_forall_notMem]
  constructor
  · intro h
    constructor
    · rintro p ⟨a, hp⟩
      cases h p _ hp
    · rintro p ⟨fault, hp⟩
      cases h p _ hp
  · rintro ⟨hhits, hfailures⟩ p r hp
    exact decided_of_not_mem hp (hhits p) (hfailures p)

theorem ordered (ways : List (Way α)) (name : String) (collections : List (Keyed Value α)) :
    Ordered ways name collections where
  finds a := by
    refine ⟨least_of_search, ?_⟩
    rintro ⟨p, hleast, hp, hfailures⟩
    cases hsearch : search ways name collections with
    | error fault =>
      obtain ⟨q, hq, hbefore⟩ := failure_of_search hsearch
      exact absurd (hbefore p hleast.1) (lt_asymm (hfailures q hq))
    | ok found =>
      cases found with
      | none =>
        have hnone := (search_eq_none_iff_empty.1 hsearch).1
        exact absurd hleast.1 (Set.eq_empty_iff_forall_notMem.1 hnone p)
      | some b =>
        obtain ⟨p', hleast', hp', -⟩ := least_of_search hsearch
        obtain rfl := hleast.unique hleast'
        exact Option.some.inj (hp'.symm.trans hp)
  findsNone := search_eq_none_iff_empty
  fails := by
    constructor
    · rintro ⟨fault, h⟩
      exact failure_of_search h
    · rintro ⟨q, hq, hbefore⟩
      cases hsearch : search ways name collections with
      | error fault => exact ⟨fault, rfl⟩
      | ok found =>
        cases found with
        | none =>
          have hnone := (search_eq_none_iff_empty.1 hsearch).2
          exact absurd hq (Set.eq_empty_iff_forall_notMem.1 hnone q)
        | some a =>
          obtain ⟨p, hleast, -, hfailures⟩ := least_of_search hsearch
          exact absurd (hfailures q hq) (lt_asymm (hbefore p hleast.1))

end Searching

section Matchers

variable {α : Type} {nameOf : α → Value} {collections : List (Keyed Value α)}

def wayOf (nameOf : α → Value) (matcher : Matcher) : Way α :=
  fun name key a => matcher.fits name key (nameOf a)

theorem findBy_eq_firstOf (requested : String) (matcher : Matcher) (collection : Keyed Value α) :
    findBy nameOf requested matcher collection =
      firstOf (outcome (wayOf nameOf matcher) requested) collection := by
  induction collection with
  | nil => rfl
  | cons entry rest ih =>
    obtain ⟨key, a⟩ := entry
    rw [findBy, ih, firstOf, outcome, wayOf]
    cases matcher.fits requested key (nameOf a) with
    | error fault => rfl
    | ok fits => cases fits <;> rfl

theorem findOne_eq_firstOf (requested : String) (matchers : List Matcher)
    (collection : Keyed Value α) : findOne nameOf requested collection matchers =
      firstOf (fun matcher => findBy nameOf requested matcher collection) matchers := by
  induction matchers with
  | nil => rfl
  | cons matcher rest ih =>
    rw [findOne, ih, firstOf]
    cases findBy nameOf requested matcher collection with
    | error fault => rfl
    | ok found => cases found <;> rfl

/-- Looking a name up is searching in the ways of the matchers. -/
theorem findIn_eq_search (matchers : List Matcher) (name : String)
    (collections : List (Keyed Value α)) : findIn nameOf matchers name collections =
      search (matchers.map (wayOf nameOf)) name collections := by
  induction collections with
  | nil => rfl
  | cons collection rest ih =>
    have hone : findOne nameOf (strip name) collection matchers =
        firstOf (fun way => firstOf (outcome way (strip name)) collection)
          (matchers.map (wayOf nameOf)) := by
      rw [findOne_eq_firstOf, firstOf_map]
      simp only [findBy_eq_firstOf]
    rw [findIn, ih, search, search, firstOf, ← hone]
    cases findOne nameOf (strip name) collection matchers with
    | error fault => rfl
    | ok found => cases found <;> rfl

def allWays (nameOf : α → Value) : List (Way α) := Matcher.all.map (wayOf nameOf)

/-- The key or the name of an entry is a text that differs from a name in letter case at most. -/
def Alike (nameOf : α → Value) (name : String) (entry : Value × α) : Prop :=
  ∃ s, (entry.1 = .text s ∨ nameOf entry.2 = .text s) ∧ fold s = fold name

theorem outcome_ok_some {way : Way α} {name : String} {entry : Value × α} {a : α}
    (h : outcome way name entry = .ok (some a)) :
    way name entry.1 entry.2 = .ok true ∧ entry.2 = a := by
  unfold outcome at h
  cases hway : way name entry.1 entry.2 with
  | error fault => simp [hway, Except.map] at h
  | ok fits => cases fits <;> simp_all [Except.map]

theorem outcome_of_fits {way : Way α} {name : String} {entry : Value × α}
    (h : way name entry.1 entry.2 = .ok true) : outcome way name entry = .ok (some entry.2) := by
  rw [outcome, h]
  rfl

theorem foldedEqual_iff {name : String} {v : Value} :
    Matcher.foldedEqual name v = .ok true ↔ ∃ s, v = .text s ∧ fold s = fold name := by
  cases v <;> simp [Matcher.foldedEqual, Value.asText, Except.map]

/-- Whatever the way in which a name fits an entry, it is the same but for letter case. -/
theorem alike_of_fits {matcher : Matcher} {name : String} {entry : Value × α}
    (h : matcher.fits name entry.1 (nameOf entry.2) = .ok true) : Alike nameOf name entry := by
  cases matcher with
  | exactKey => exact ⟨name, Or.inl (Value.eq_text_of_same (Except.ok.inj h)), rfl⟩
  | exactName => exact ⟨name, Or.inr (Value.eq_text_of_same (Except.ok.inj h)), rfl⟩
  | foldedKey =>
    obtain ⟨s, hs, hfold⟩ := foldedEqual_iff.1 h
    exact ⟨s, Or.inl hs, hfold⟩
  | foldedName =>
    obtain ⟨s, hs, hfold⟩ := foldedEqual_iff.1 h
    exact ⟨s, Or.inr hs, hfold⟩

theorem Alike.fits {name : String} {entry : Value × α} (h : Alike nameOf name entry) :
    ∃ matcher : Matcher, matcher.fits name entry.1 (nameOf entry.2) = .ok true := by
  obtain ⟨s, hs | hs, hfold⟩ := h
  · exact ⟨.foldedKey, foldedEqual_iff.2 ⟨s, hs, hfold⟩⟩
  · exact ⟨.foldedName, foldedEqual_iff.2 ⟨s, hs, hfold⟩⟩

theorem mem_all (matcher : Matcher) : matcher ∈ Matcher.all := by
  cases matcher <;> decide

/-- A name fits at a place of a collection exactly where an entry of it is the same but for letter
case. -/
theorem exists_hit_iff {name : String} {i : ℕ} :
    (∃ p ∈ hits (allWays nameOf) name collections, p.collection = i) ↔
      ∃ collection entry, collections[i]? = some collection ∧ entry ∈ collection ∧
        Alike nameOf (strip name) entry := by
  constructor
  · rintro ⟨p, ⟨a, hp⟩, rfl⟩
    obtain ⟨collection, way, entry, hcollection, hway, hentry, houtcome⟩ := outcomeAt_eq_some_iff.1 hp
    obtain ⟨matcher, -, rfl⟩ := List.mem_map.1 (List.mem_of_getElem? hway)
    exact ⟨collection, entry, hcollection, List.mem_of_getElem? hentry,
      alike_of_fits (outcome_ok_some houtcome).1⟩
  · rintro ⟨collection, entry, hcollection, hentry, halike⟩
    obtain ⟨matcher, hfits⟩ := halike.fits
    obtain ⟨j, hj⟩ := List.mem_iff_getElem?.1 (List.mem_map_of_mem (f := wayOf nameOf) (mem_all matcher))
    obtain ⟨k, hk⟩ := List.mem_iff_getElem?.1 hentry
    have hhit : outcome (wayOf nameOf matcher) (strip name) entry = .ok (some entry.2) :=
      outcome_of_fits hfits
    exact ⟨⟨i, j, k⟩, ⟨entry.2, outcomeAt_eq_some_iff.2
      ⟨collection, _, entry, hcollection, hj, hk, hhit⟩⟩, rfl⟩

theorem Alike.congr {name name' : String} {entry : Value × α} (hfold : fold name = fold name')
    (h : Alike nameOf name entry) : Alike nameOf name' entry := by
  obtain ⟨s, hs, hname⟩ := h
  exact ⟨s, hs, hname.trans hfold⟩

/-- Two names that are the same but for letter case fit in the same collections. -/
theorem exists_hit_congr {name name' : String} (hfold : fold (strip name) = fold (strip name')) {i : ℕ}
    (h : ∃ p ∈ hits (allWays nameOf) name collections, p.collection = i) :
    ∃ p ∈ hits (allWays nameOf) name' collections, p.collection = i := by
  rw [exists_hit_iff] at h ⊢
  obtain ⟨collection, entry, hcollection, hentry, halike⟩ := h
  exact ⟨collection, entry, hcollection, hentry, halike.congr hfold⟩

/-- The table that a lookup gives is at a place. -/
structure FoundAt (nameOf : α → Value) (name : String) (collections : List (Keyed Value α))
    (p : Place) (a : α) : Prop where
  found : findIn nameOf Matcher.all name collections = .ok (some a)
  least : IsLeast (hits (allWays nameOf) name collections) p
  here : outcomeAt (allWays nameOf) name collections p = some (.ok (some a))

theorem exists_foundAt {name : String} {a : α}
    (h : findIn nameOf Matcher.all name collections = .ok (some a)) :
    ∃ p, FoundAt nameOf name collections p a := by
  rw [findIn_eq_search] at h
  obtain ⟨p, hleast, hp, -⟩ := least_of_search h
  exact ⟨p, by rw [findIn_eq_search, h], hleast, hp⟩

/-- The lookups of two names agree: both find nothing, or both find a table in one collection. -/
def Agree (nameOf : α → Value) (collections : List (Keyed Value α)) (name name' : String) : Prop :=
  (findIn nameOf Matcher.all name collections = .ok none ∧
    findIn nameOf Matcher.all name' collections = .ok none) ∨
  ∃ p p' a a', FoundAt nameOf name collections p a ∧ FoundAt nameOf name' collections p' a' ∧
    p.collection = p'.collection

/-- The first collection with a table for a name is not behind one with a table for a name that is the
same but for letter case. -/
theorem collection_le_of_fold {name name' : String} (hfold : fold (strip name) = fold (strip name'))
    {p p' : Place} {a a' : α} (h : FoundAt nameOf name collections p a)
    (h' : FoundAt nameOf name' collections p' a') : p.collection ≤ p'.collection := by
  obtain ⟨q, hq, hcollection⟩ := exists_hit_congr hfold.symm ⟨p', h'.least.1, rfl⟩
  have hle : p ≤ q := h.least.2 hq
  calc p.collection ≤ q.collection := Place.collection_le hle
    _ = p'.collection := hcollection

theorem findIn_ne_none_of_hit {name : String} {p : Place}
    (hp : p ∈ hits (allWays nameOf) name collections) :
    findIn nameOf Matcher.all name collections ≠ .ok none := by
  intro hnone
  rw [findIn_eq_search] at hnone
  exact Set.eq_empty_iff_forall_notMem.1 (search_eq_none_iff_empty.1 hnone).1 p hp

/-- Names that are the same but for letter case get answers that agree, where both get one. -/
theorem agree_of_fold {name name' : String} (hfold : fold (strip name) = fold (strip name'))
    {found found' : Option α} (h : findIn nameOf Matcher.all name collections = .ok found)
    (h' : findIn nameOf Matcher.all name' collections = .ok found') :
    Agree nameOf collections name name' := by
  cases found with
  | none =>
    cases found' with
    | none => exact Or.inl ⟨h, h'⟩
    | some a' =>
      obtain ⟨p', hp'⟩ := exists_foundAt h'
      obtain ⟨q, hq, -⟩ := exists_hit_congr hfold.symm ⟨p', hp'.least.1, rfl⟩
      exact absurd h (findIn_ne_none_of_hit hq)
  | some a =>
    obtain ⟨p, hp⟩ := exists_foundAt h
    cases found' with
    | none =>
      obtain ⟨q, hq, -⟩ := exists_hit_congr hfold ⟨p, hp.least.1, rfl⟩
      exact absurd h' (findIn_ne_none_of_hit hq)
    | some a' =>
      obtain ⟨p', hp'⟩ := exists_foundAt h'
      refine Or.inr ⟨p, p', a, a', hp, hp', ?_⟩
      exact Nat.le_antisymm (collection_le_of_fold hfold hp hp')
        (collection_le_of_fold hfold.symm hp' hp)

def Named (nameOf : α → Value) (entry : Value × α) : Prop :=
  (∃ s, entry.1 = .text s) ∧ ∃ s, nameOf entry.2 = .text s

theorem foldedEqual_ne_error {name : String} {v : Value} (h : ∃ s, v = .text s) (fault : Fault) :
    Matcher.foldedEqual name v ≠ .error fault := by
  obtain ⟨s, rfl⟩ := h
  rw [foldedEqual_text]
  intro h
  cases h

/-- No comparison with texts fails. -/
theorem Named.fits_ne_error {name : String} {entry : Value × α} (h : Named nameOf entry)
    (matcher : Matcher) (fault : Fault) :
    matcher.fits name entry.1 (nameOf entry.2) ≠ .error fault := by
  cases matcher with
  | exactKey => simp [Matcher.fits]
  | exactName => simp [Matcher.fits]
  | foldedKey => exact foldedEqual_ne_error h.1 fault
  | foldedName => exact foldedEqual_ne_error h.2 fault

/-- A comparison fails only with a key or a name that is no text. -/
theorem exists_of_failure {name : String} {p : Place}
    (h : p ∈ failures (allWays nameOf) name collections) :
    ∃ collection entry, collections[p.collection]? = some collection ∧ entry ∈ collection ∧
      ¬ Named nameOf entry := by
  obtain ⟨fault, hp⟩ := h
  obtain ⟨collection, way, entry, hcollection, hway, hentry, houtcome⟩ := outcomeAt_eq_some_iff.1 hp
  obtain ⟨matcher, -, rfl⟩ := List.mem_map.1 (List.mem_of_getElem? hway)
  refine ⟨collection, entry, hcollection, List.mem_of_getElem? hentry, fun hnamed => ?_⟩
  cases hfits : matcher.fits (strip name) entry.1 (nameOf entry.2) with
  | error own => exact hnamed.fits_ne_error matcher own hfits
  | ok fits => simp [outcome, wayOf, hfits, Except.map] at houtcome

end Matchers

end Lookup

end TaleLoom
