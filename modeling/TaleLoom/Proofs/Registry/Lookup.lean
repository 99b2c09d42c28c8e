import TaleLoom.Proofs.Fault
import TaleLoom.Registry.Basic
/-!
When a lookup fails. Names are compared but for letter case only after the exact comparisons, and only
texts can be compared so; the lookup stumbles on a key or a name that is no text if it comes to one
before it finds what it looks for.
-/

namespace TaleLoom.Lookup

open Text

variable {α : Type} {nameOf : α → Value} {requested : String} {collection : Keyed Value α}

def stumbles (requested : String) : List Value → Bool
  | [] => false
  | .text s :: rest => if fold s == fold requested then false else stumbles requested rest
  | _ :: _ => true

theorem foldedEqual_text (requested s : String) :
    Matcher.foldedEqual requested (.text s) = .ok (fold s == fold requested) := rfl

theorem foldedEqual_error {v : Value} (h : ∀ s, v ≠ .text s) :
    Matcher.foldedEqual requested v = .error .missingPart := by
  cases v <;> first | rfl | exact absurd rfl (h _)

theorem findBy_ok {matcher : Matcher} {hits : Value × α → Bool}
    (h : ∀ entry : Value × α, matcher.fits requested entry.1 (nameOf entry.2) = .ok (hits entry)) :
    findBy nameOf requested matcher collection = .ok ((collection.find? hits).map (·.2)) := by
  induction collection with
  | nil => rfl
  | cons entry rest ih =>
    obtain ⟨key, a⟩ := entry
    have hfits := h (key, a)
    simp only at hfits
    rw [findBy, hfits]
    cases hhit : hits (key, a) with
    | true => simp [hhit]
    | false => simp [hhit, ih]

/-- A comparison but for letter case fails exactly where it stumbles. -/
theorem findBy_error_iff {matcher : Matcher} {subject : Value × α → Value}
    (h : ∀ entry : Value × α, matcher.fits requested entry.1 (nameOf entry.2) =
      Matcher.foldedEqual requested (subject entry)) :
    (∃ fault, findBy nameOf requested matcher collection = .error fault) ↔
      stumbles requested (collection.map subject) = true := by
  induction collection with
  | nil => simp [findBy, stumbles]
  | cons entry rest ih =>
    obtain ⟨key, a⟩ := entry
    have hfits := h (key, a)
    simp only at hfits
    rw [findBy, hfits, List.map_cons]
    by_cases htext : ∃ s, subject (key, a) = .text s
    · obtain ⟨s, hs⟩ := htext
      rw [hs, foldedEqual_text, stumbles]
      cases hequal : fold s == fold requested with
      | true => simp
      | false => simpa using ih
    · have hother : ∀ s, subject (key, a) ≠ .text s := fun s hs => htext ⟨s, hs⟩
      rw [foldedEqual_error hother]
      have hstumbles : stumbles requested (subject (key, a) :: rest.map subject) = true := by
        cases hv : subject (key, a) <;> first | rfl | exact absurd hv (hother _)
      simp [hstumbles]

/-- In a collection without the name in its exact spelling, the lookup stumbles over the keys, or, where
no key fits either, over the names. -/
structure StumblesAt (nameOf : α → Value) (requested : String) (collection : Keyed Value α) :
    Prop where
  noKey : ∀ entry ∈ collection, entry.1.same (.text requested) = false
  noName : ∀ entry ∈ collection, (nameOf entry.2).same (.text requested) = false
  stumbles : stumbles requested (collection.map (·.1)) = true ∨
    findBy nameOf requested .foldedKey collection = .ok none ∧
      Lookup.stumbles requested (collection.map fun entry => nameOf entry.2) = true

theorem findOne_cons_error_iff {matcher : Matcher} {matchers : List Matcher} :
    (∃ fault, findOne nameOf requested collection (matcher :: matchers) = .error fault) ↔
      (∃ fault, findBy nameOf requested matcher collection = .error fault) ∨
        findBy nameOf requested matcher collection = .ok none ∧
          ∃ fault, findOne nameOf requested collection matchers = .error fault := by
  rw [findOne]
  cases findBy nameOf requested matcher collection with
  | error fault => simp
  | ok found => cases found <;> simp

theorem findBy_exact_none_iff {matcher : Matcher} {hits : Value × α → Bool}
    (h : ∀ entry : Value × α, matcher.fits requested entry.1 (nameOf entry.2) = .ok (hits entry)) :
    findBy nameOf requested matcher collection = .ok none ↔
      ∀ entry ∈ collection, hits entry = false := by
  simp [findBy_ok h]

theorem findOne_error_iff :
    (∃ fault, findOne nameOf requested collection Matcher.all = .error fault) ↔
      StumblesAt nameOf requested collection := by
  have hkey (entry : Value × α) : Matcher.fits requested entry.1 (nameOf entry.2) .exactKey =
      .ok (entry.1.same (.text requested)) := rfl
  have hname (entry : Value × α) : Matcher.fits requested entry.1 (nameOf entry.2) .exactName =
      .ok ((nameOf entry.2).same (.text requested)) := rfl
  have hfoldedKey (entry : Value × α) : Matcher.fits requested entry.1 (nameOf entry.2) .foldedKey =
      Matcher.foldedEqual requested entry.1 := rfl
  have hfoldedName (entry : Value × α) :
      Matcher.fits requested entry.1 (nameOf entry.2) .foldedName =
        Matcher.foldedEqual requested (nameOf entry.2) := rfl
  rw [Matcher.all, findOne_cons_error_iff, findOne_cons_error_iff, findOne_cons_error_iff,
    findOne_cons_error_iff, findBy_exact_none_iff hkey, findBy_exact_none_iff hname,
    findBy_error_iff hfoldedKey, findBy_error_iff hfoldedName, findBy_ok hkey, findBy_ok hname]
  simp only [reduceCtorEq, exists_false, false_or, findOne, and_false, or_false]
  constructor
  · rintro ⟨hnoKey, hnoName, hstumbles⟩
    exact ⟨hnoKey, hnoName, hstumbles⟩
  · rintro ⟨hnoKey, hnoName, hstumbles⟩
    exact ⟨hnoKey, hnoName, hstumbles⟩

/-- The lookup stumbles in a collection, and finds nothing in those before it. -/
def Stumbles (nameOf : α → Value) (requested : String) : List (Keyed Value α) → Prop
  | [] => False
  | collection :: rest =>
    StumblesAt nameOf (strip requested) collection ∨
      findOne nameOf (strip requested) collection Matcher.all = .ok none ∧
        Stumbles nameOf requested rest

/-- A lookup fails exactly where it stumbles. -/
theorem findIn_error_iff {collections : List (Keyed Value α)} :
    (∃ fault, findIn nameOf Matcher.all requested collections = .error fault) ↔
      Stumbles nameOf requested collections := by
  induction collections with
  | nil => simp [findIn, Stumbles]
  | cons collection rest ih =>
    rw [findIn, Stumbles, ← findOne_error_iff, ← ih]
    cases findOne nameOf (strip requested) collection Matcher.all with
    | error fault => simp
    | ok found => cases found <;> simp

end TaleLoom.Lookup

namespace TaleLoom

def Registry.Stumbles (registry : Registry) (name : String) : Prop :=
  Lookup.Stumbles (·.name) name [registry.builtIn, registry.custom]

theorem Registry.find_error_iff {registry : Registry} {name : String} :
    (∃ fault, registry.find name = .error fault) ↔ registry.Stumbles name :=
  Lookup.findIn_error_iff

def SparkLibrary.Stumbles (library : SparkLibrary) (name : String) : Prop :=
  Lookup.Stumbles (·.name) name [library.tables]

theorem SparkLibrary.find_error_iff {library : SparkLibrary} {name : String} :
    (∃ fault, library.find name = .error fault) ↔ library.Stumbles name :=
  Lookup.findIn_error_iff

end TaleLoom
