import TaleLoom.Proofs.Desk
import TaleLoom.Proofs.Dice.Formula
/-!
The totals that dice can come to. A formula comes to every total between its least and its greatest
one and to no other, and every row of faces is what some source gives.
-/

namespace TaleLoom

namespace Source

theorem length_faces (sides count : Nat) (source : Source) :
    (source.faces sides count).1.length = count := by
  induction count generalizing source with
  | zero => rfl
  | succ count ih => simp only [faces, List.length_cons, ih]

def ofFaces (faces : List Int) : Source := .listed (faces.map (· - 1))

theorem faces_ofFaces {sides : Nat} {faces : List Int}
    (h : ∀ face ∈ faces, 1 ≤ face ∧ face ≤ sides) :
    ((ofFaces faces).faces sides faces.length).1 = faces := by
  induction faces with
  | nil => rfl
  | cons face rest ih =>
    obtain ⟨hface, hrest⟩ := List.forall_mem_cons.1 h
    have hdraw : (((face - 1) % (sides : Int)).toNat : Int) + 1 = face := by
      have hmod : (face - 1) % (sides : Int) = face - 1 := Int.emod_eq_of_lt (by omega) (by omega)
      rw [hmod]
      omega
    have htail : ((ofFaces rest).faces sides rest.length).1 = rest := ih hrest
    simp only [ofFaces] at htail
    simp only [ofFaces, List.map_cons, List.length_cons, faces, below, hdraw, htail]

end Source

namespace Formula

structure Shows (f : Formula) (faces : List Int) : Prop where
  count : faces.length = f.count
  sides : ∀ face ∈ faces, 1 ≤ face ∧ face ≤ f.sides

/-- What is read as a formula has a die, and its dice have sides. -/
theorem pos_of_ofValue {v : Value} {f : Formula} (h : ofValue v = .ok f) :
    1 ≤ f.count ∧ 1 ≤ f.sides := by
  have hchecked {written : Value} {g : Formula} (hg : checked written g = .ok f) :
      1 ≤ f.count ∧ 1 ≤ f.sides := by
    unfold checked at hg
    split at hg
    · cases hg
    · next hpos =>
      split at hg
      · cases hg
      · obtain rfl : g = f := Except.ok.inj hg
        simp only [Bool.or_eq_true, decide_eq_true_eq] at hpos
        omega
  have htext {written : Value} {s : String} (hs : ofText written s = .ok f) :
      1 ≤ f.count ∧ 1 ≤ f.sides := by
    unfold ofText at hs
    split at hs
    · cases hs
    · next parts hparts =>
      cases hof : ofParts parts with
      | error fault =>
        rw [hof] at hs
        cases hs
      | ok g =>
        rw [hof] at hs
        exact hchecked hs
  unfold ofValue at h
  split at h
  · exact htext h
  · split at h
    · cases h
    · exact htext h

variable {f : Formula}

theorem shows_faces (hsides : 1 ≤ f.sides) (source : Source) :
    f.Shows (source.faces f.sides f.count).1 :=
  ⟨Source.length_faces _ _ _, fun _ hface => Source.mem_faces hsides hface⟩

theorem sum_between {sides : Nat} {faces : List Int}
    (h : ∀ face ∈ faces, 1 ≤ face ∧ face ≤ sides) :
    (faces.length : Int) ≤ faces.foldr (· + ·) 0 ∧
      faces.foldr (· + ·) 0 ≤ (faces.length : Int) * sides := by
  induction faces with
  | nil => simp
  | cons face rest ih =>
    obtain ⟨hface, hrest⟩ := List.forall_mem_cons.1 h
    have hsum := ih hrest
    have hmul : ((rest.length : Int) + 1) * sides = rest.length * sides + sides := by
      rw [Int.add_mul, Int.one_mul]
    simp only [List.foldr_cons, List.length_cons, Int.natCast_add, Int.cast_ofNat_Int, hmul]
    omega

/-- So many dice come to every sum between all ones and all greatest faces. -/
theorem exists_faces {sides : Nat} (hsides : 1 ≤ sides) (count : Nat) (sum : Int)
    (hlow : (count : Int) ≤ sum) (hhigh : sum ≤ (count : Int) * sides) :
    ∃ faces : List Int, faces.length = count ∧ (∀ face ∈ faces, 1 ≤ face ∧ face ≤ sides) ∧
      faces.foldr (· + ·) 0 = sum := by
  induction count generalizing sum with
  | zero => exact ⟨[], rfl, by simp, by simp at hlow hhigh ⊢; omega⟩
  | succ count ih =>
    have hmul : ((count : Int) + 1) * sides = count * sides + sides := by
      rw [Int.add_mul, Int.one_mul]
    have hones : (count : Int) * 1 ≤ count * sides :=
      Int.mul_le_mul_of_nonneg_left (by omega) (by omega)
    simp only [Int.natCast_add, Int.cast_ofNat_Int, hmul] at hlow hhigh
    let face : Int := max 1 (sum - count * sides)
    have hface : 1 ≤ face ∧ face ≤ sides := by omega
    obtain ⟨faces, hlength, hmem, hsum⟩ := ih (sum - face) (by omega) (by omega)
    refine ⟨face :: faces, by simp [hlength], List.forall_mem_cons.2 ⟨hface, hmem⟩, ?_⟩
    simp only [List.foldr_cons, hsum]
    omega

/-- Faces come to a total exactly when it lies between the least and the greatest one. -/
theorem exists_shows_iff (hsides : 1 ≤ f.sides) (total : Int) :
    (∃ faces, f.Shows faces ∧ f.total faces = total) ↔ f.least ≤ total ∧ total ≤ f.greatest := by
  unfold Formula.total least greatest
  constructor
  · rintro ⟨faces, hshows, rfl⟩
    have hsum := sum_between hshows.sides
    rw [hshows.count] at hsum
    omega
  · rintro ⟨hlow, hhigh⟩
    obtain ⟨faces, hlength, hmem, hsum⟩ :=
      exists_faces hsides f.count (total - f.modifier) (by omega) (by omega)
    exact ⟨faces, ⟨hlength, hmem⟩, by omega⟩

/-- The totals that some source gives are those between the least and the greatest one. -/
theorem exists_totalOn_iff (hsides : 1 ≤ f.sides) (total : Int) :
    (∃ source, f.totalOn source = total) ↔ f.least ≤ total ∧ total ≤ f.greatest := by
  rw [← exists_shows_iff hsides]
  constructor
  · rintro ⟨source, htotal⟩
    exact ⟨_, shows_faces hsides source, htotal⟩
  · rintro ⟨faces, hshows, htotal⟩
    have hfaces := Source.faces_ofFaces hshows.sides
    rw [hshows.count] at hfaces
    exact ⟨Source.ofFaces faces, by rw [totalOn, hfaces, htotal]⟩

theorem least_le_greatest (hsides : 1 ≤ f.sides) : f.least ≤ f.greatest := by
  obtain ⟨hlow, hhigh⟩ := (exists_shows_iff hsides (f.totalOn (.listed []))).1
    ⟨_, shows_faces hsides (.listed []), rfl⟩
  exact Int.le_trans hlow hhigh

/-- A total between ends that can be written can be written. -/
theorem short_totalOn (hsides : 1 ≤ f.sides) (hleast : Number.isTooLong f.least = false)
    (hgreatest : Number.isTooLong f.greatest = false) (source : Source) :
    Number.isTooLong (f.totalOn source) = false := by
  obtain ⟨hlow, hhigh⟩ := (exists_shows_iff hsides (f.totalOn source)).1
    ⟨_, shows_faces hsides source, rfl⟩
  exact Number.isTooLong_of_between hleast hgreatest hlow hhigh

end Formula

end TaleLoom
