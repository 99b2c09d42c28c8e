import TaleLoom.Value.Reader
/-!
The allowance of the reader is always enough. Each reader leaves less of the text than it was given, so
twice the characters and one step cover every reading: with a larger allowance the same is read, and the
same fault is found (`Value.readValue_of_le`).
-/

namespace TaleLoom.Value

section Parts

variable {cs rest : List Char} {v : Value}

theorem length_skipSpace (cs : List Char) : (skipSpace cs).length ≤ cs.length :=
  (List.dropWhile_suffix _).length_le

theorem length_of_skipSpace {c : Char} {after : List Char} (h : skipSpace cs = c :: after) :
    after.length < cs.length := by
  have hskip := length_skipSpace cs
  rw [h, List.length_cons] at hskip
  exact hskip

theorem length_of_readText {seen : List Char} {s : String} (h : readText seen cs = .ok (s, rest)) :
    rest.length < cs.length := by
  induction hn : cs.length using Nat.strongRecOn generalizing seen cs with
  | ind n ih =>
    have hshorter {seen : List Char} {cs' : List Char} (h : readText seen cs' = .ok (s, rest))
        (hlt : cs'.length < n) : rest.length < n := Nat.lt_trans (ih _ hlt h rfl) hlt
    subst hn
    rw [readText.eq_def] at h
    split at h
    · cases h
    · cases h
      exact Nat.lt_succ_self _
    · split at h
      · cases h
      · split at h
        · split at h
          · cases h
          · split at h
            · exact hshorter h (by simp only [List.length_cons]; omega)
            · exact hshorter h (by simp only [List.length_cons]; omega)
        · exact hshorter h (by simp only [List.length_cons]; omega)
    · split at h
      · cases h
      · exact hshorter h (by simp only [List.length_cons]; omega)
    · split at h
      · cases h
      · exact hshorter h (by simp only [List.length_cons]; omega)
    · split at h
      · cases h
      · exact hshorter h (Nat.lt_succ_self _)

theorem length_spanDigits (cs : List Char) :
    (spanDigits cs).1.length + (spanDigits cs).2.length = cs.length := by
  rw [spanDigits, ← List.length_append, List.takeWhile_append_dropWhile]

theorem length_readPlaces (cs : List Char) : (readPlaces cs).2.length ≤ cs.length := by
  unfold readPlaces
  split
  · next rest =>
    have hlength := length_spanDigits rest
    dsimp only
    split
    · exact Nat.le_refl _
    · rw [List.length_cons]
      dsimp only
      omega
  · exact Nat.le_refl _

theorem length_readExponent (cs : List Char) : (readExponent cs).2.length ≤ cs.length := by
  have hbody (e : Char) {body rest : List Char} (h : body.length ≤ rest.length) (negative : Bool) :
      (if (spanDigits body).1.isEmpty then ((none : Option Int), e :: rest)
        else (some (if negative then -(Text.digitsValue (spanDigits body).1 : Int)
          else (Text.digitsValue (spanDigits body).1 : Int)), (spanDigits body).2)).2.length ≤
        (e :: rest).length := by
    have hlength := length_spanDigits body
    split
    · exact Nat.le_refl _
    · rw [List.length_cons]
      dsimp only
      omega
  unfold readExponent
  split
  · next e rest =>
    split
    · dsimp only
      split
      · exact hbody e (Nat.le_succ _) true
      · exact hbody e (Nat.le_succ _) false
      · exact hbody e (Nat.le_refl _) false
    · exact Nat.le_refl _
  · exact Nat.le_refl _

theorem length_of_readNumber {negative : Bool} (h : readNumber negative cs = .ok (v, rest)) :
    rest.length < cs.length := by
  unfold readNumber at h
  split at h
  next whole after hwhole =>
  have hlength : whole.length + after.length = cs.length := by
    split at hwhole
    · cases hwhole
      exact Nat.add_comm _ _
    · cases hwhole
      exact length_spanDigits cs
  have hplaces := length_readPlaces after
  have hexponent := length_readExponent (readPlaces after).2
  split at h
  · cases h
  · next hsome =>
    have hpos : 0 < whole.length := by
      cases whole with
      | nil => exact absurd rfl hsome
      | cons => exact Nat.succ_pos _
    dsimp only at h
    split at h
    · split at h
      · cases h
      · cases h
        omega
    · cases h
      omega

theorem length_of_readSimple (h : readSimple cs = .ok (v, rest)) : rest.length < cs.length := by
  rw [readSimple.eq_def] at h
  split at h
  · next rest' =>
    cases hread : readText [] rest' with
    | error fault => rw [hread] at h; cases h
    | ok found =>
      rw [hread] at h
      cases h
      exact Nat.lt_trans (length_of_readText hread) (Nat.lt_succ_self _)
  · cases h; simp only [List.length_cons]; omega
  · cases h; simp only [List.length_cons]; omega
  · cases h; simp only [List.length_cons]; omega
  · cases h; simp only [List.length_cons]; omega
  · cases h; simp only [List.length_cons]; omega
  · cases h; simp only [List.length_cons]; omega
  · exact Nat.lt_trans (length_of_readNumber h) (Nat.lt_succ_self _)
  · exact length_of_readNumber h

end Parts

structure Consumes (allowance : Nat) : Prop where
  value {room : Nat} {cs rest : List Char} {v : Value} :
    readValue allowance room cs = .ok (v, rest) → rest.length < cs.length
  items {room : Nat} {seen : List Value} {cs rest : List Char} {v : Value} :
    readItems allowance room seen cs = .ok (v, rest) → rest.length < cs.length
  fields {room : Nat} {seen : List (String × Value)} {cs rest : List Char} {v : Value} :
    readFields allowance room seen cs = .ok (v, rest) → rest.length < cs.length

namespace Consumes

variable {allowance room : Nat} {cs rest : List Char} {v : Value}

theorem value_succ (hs : Consumes allowance)
    (h : readValue (allowance + 1) room cs = .ok (v, rest)) : rest.length < cs.length := by
  rw [readValue.eq_def] at h
  dsimp only at h
  split at h
  · next inner =>
    split at h
    · cases h
    · split at h
      · next hempty =>
        cases h
        exact Nat.lt_trans (length_of_skipSpace hempty) (Nat.lt_succ_self _)
      · exact Nat.lt_succ_of_le (Nat.le_trans (Nat.le_of_lt (hs.fields h)) (length_skipSpace inner))
  · next inner =>
    split at h
    · cases h
    · split at h
      · next hempty =>
        cases h
        exact Nat.lt_trans (length_of_skipSpace hempty) (Nat.lt_succ_self _)
      · exact Nat.lt_succ_of_le (Nat.le_trans (Nat.le_of_lt (hs.items h)) (length_skipSpace inner))
  · exact length_of_readSimple h

theorem items_succ (hs : Consumes allowance) {seen : List Value}
    (h : readItems (allowance + 1) room seen cs = .ok (v, rest)) : rest.length < cs.length := by
  rw [readItems.eq_def] at h
  dsimp only at h
  split at h
  · cases h
  · next hitem =>
    have hfirst := hs.value hitem
    split at h
    · next hcomma =>
      have hafter := length_of_skipSpace hcomma
      have hskip := Nat.lt_of_lt_of_le (hs.items h) (length_skipSpace _)
      omega
    · next hclose =>
      cases h
      exact Nat.lt_trans (length_of_skipSpace hclose) hfirst
    · cases h

theorem fields_succ (hs : Consumes allowance) {seen : List (String × Value)}
    (h : readFields (allowance + 1) room seen cs = .ok (v, rest)) : rest.length < cs.length := by
  rw [readFields.eq_def] at h
  dsimp only at h
  split at h
  · split at h
    · cases h
    · next hkey =>
      have hname := length_of_readText hkey
      split at h
      · next hcolon =>
        have hbegin := length_of_skipSpace hcolon
        split at h
        · cases h
        · next hitem =>
          have hvalue := Nat.lt_of_lt_of_le (hs.value hitem) (length_skipSpace _)
          rw [List.length_cons]
          split at h
          · next hcomma =>
            have hafter := length_of_skipSpace hcomma
            have hskip := Nat.lt_of_lt_of_le (hs.fields h) (length_skipSpace _)
            omega
          · next hclose =>
            have hafter := length_of_skipSpace hclose
            cases h
            omega
          · cases h
      · cases h
  · cases h

theorem all : ∀ allowance, Consumes allowance
  | 0 => ⟨nofun, nofun, nofun⟩
  | allowance + 1 =>
    have hs := all allowance
    ⟨hs.value_succ, hs.items_succ, hs.fields_succ⟩

end Consumes

structure Covers (allowance : Nat) : Prop where
  value {room more : Nat} {cs : List Char} : 2 * cs.length + 1 ≤ allowance → allowance ≤ more →
    readValue more room cs = readValue allowance room cs
  items {room more : Nat} {seen : List Value} {cs : List Char} : 2 * cs.length + 2 ≤ allowance →
    allowance ≤ more → readItems more room seen cs = readItems allowance room seen cs
  fields {room more : Nat} {seen : List (String × Value)} {cs : List Char} :
    2 * cs.length + 2 ≤ allowance → allowance ≤ more →
      readFields more room seen cs = readFields allowance room seen cs

namespace Covers

variable {allowance room more : Nat} {cs : List Char}

theorem value_succ (hc : Covers allowance) (henough : 2 * cs.length + 1 ≤ allowance + 1)
    (hmore : allowance ≤ more) :
    readValue (more + 1) room cs = readValue (allowance + 1) room cs := by
  rw [readValue.eq_def, readValue.eq_def]
  dsimp only
  split
  · next inner =>
    have hinner := length_skipSpace inner
    rw [List.length_cons] at henough
    split
    · rfl
    · split
      · rfl
      · exact hc.fields (by omega) hmore
  · next inner =>
    have hinner := length_skipSpace inner
    rw [List.length_cons] at henough
    split
    · rfl
    · split
      · rfl
      · exact hc.items (by omega) hmore
  · rfl

theorem items_succ (hc : Covers allowance) {seen : List Value}
    (henough : 2 * cs.length + 2 ≤ allowance + 1) (hmore : allowance ≤ more) :
    readItems (more + 1) room seen cs = readItems (allowance + 1) room seen cs := by
  rw [readItems.eq_def, readItems.eq_def]
  dsimp only
  rw [hc.value (by omega) hmore]
  split
  · rfl
  · next hitem =>
    have hfirst := (Consumes.all _).value hitem
    split
    · next after hcomma =>
      have hafter := length_of_skipSpace hcomma
      have hskip := length_skipSpace after
      exact hc.items (by omega) hmore
    · rfl
    · rfl

theorem fields_succ (hc : Covers allowance) {seen : List (String × Value)}
    (henough : 2 * cs.length + 2 ≤ allowance + 1) (hmore : allowance ≤ more) :
    readFields (more + 1) room seen cs = readFields (allowance + 1) room seen cs := by
  rw [readFields.eq_def, readFields.eq_def]
  dsimp only
  split
  · rw [List.length_cons] at henough
    split
    · rfl
    · next hkey =>
      have hname := length_of_readText hkey
      split
      · next begin hcolon =>
        have hbegin := length_of_skipSpace hcolon
        have hskip := length_skipSpace begin
        rw [hc.value (by omega) hmore]
        split
        · rfl
        · next hitem =>
          have hvalue := (Consumes.all _).value hitem
          split
          · next after hcomma =>
            have hafter := length_of_skipSpace hcomma
            have hnext := length_skipSpace after
            exact hc.fields (by omega) hmore
          · rfl
          · rfl
      · rfl
  · rfl

theorem all : ∀ allowance, Covers allowance
  | 0 => ⟨nofun, nofun, nofun⟩
  | allowance + 1 => by
    have hc := all allowance
    constructor
    · intro room more cs henough hmore
      cases more with
      | zero => exact absurd hmore (Nat.not_succ_le_zero _)
      | succ more => exact hc.value_succ henough (Nat.le_of_succ_le_succ hmore)
    · intro room more seen cs henough hmore
      cases more with
      | zero => exact absurd hmore (Nat.not_succ_le_zero _)
      | succ more => exact hc.items_succ henough (Nat.le_of_succ_le_succ hmore)
    · intro room more seen cs henough hmore
      cases more with
      | zero => exact absurd hmore (Nat.not_succ_le_zero _)
      | succ more => exact hc.fields_succ henough (Nat.le_of_succ_le_succ hmore)

end Covers

/-- With any allowance from two steps for each character and one more on, the reader finds the same value
and the same rest, or the same fault. -/
theorem readValue_of_le {allowance room : Nat} {cs : List Char} (h : 2 * cs.length + 1 ≤ allowance) :
    readValue allowance room cs = readValue (2 * cs.length + 1) room cs :=
  (Covers.all _).value (Nat.le_refl _) h

end TaleLoom.Value
