import TaleLoom.Value.Reader
/-!
How the room for lists and objects bears on what is read. A reader that has less room finds none, or
finds what it finds with more (`Value.read_of_le`). Brackets that stand deeper than there is room for are
not read (`Value.read_brackets`).
-/

namespace TaleLoom.Value

/-- With an allowance, each reader finds too little room, or what it finds where there is more. -/
structure ReadsAlike (allowance : Nat) : Prop where
  value {room more : Nat} (h : room ≤ more) (cs : List Char) :
    readValue allowance room cs = .error .tooDeep ∨
      readValue allowance room cs = readValue allowance more cs
  items {room more : Nat} (h : room ≤ more) (seen : List Value) (cs : List Char) :
    readItems allowance room seen cs = .error .tooDeep ∨
      readItems allowance room seen cs = readItems allowance more seen cs
  fields {room more : Nat} (h : room ≤ more) (seen : List (String × Value)) (cs : List Char) :
    readFields allowance room seen cs = .error .tooDeep ∨
      readFields allowance room seen cs = readFields allowance more seen cs

section Step

variable {allowance room more : Nat}

theorem alike_readValue (ih : ReadsAlike allowance) (h : room ≤ more) (cs : List Char) :
    readValue (allowance + 1) room cs = .error .tooDeep ∨
      readValue (allowance + 1) room cs = readValue (allowance + 1) more cs := by
  cases room with
  | zero =>
    rw [readValue.eq_def, readValue.eq_def]
    dsimp only
    split
    · exact Or.inl rfl
    · exact Or.inl rfl
    · exact Or.inr (by simp)
  | succ room =>
    obtain ⟨more, rfl⟩ := Nat.exists_eq_add_of_lt (Nat.lt_of_succ_le h)
    rw [readValue.eq_def, readValue.eq_def]
    dsimp only
    split
    · split
      · exact Or.inr rfl
      · exact ih.fields (by omega) _ _
    · split
      · exact Or.inr rfl
      · exact ih.items (by omega) _ _
    · exact Or.inr (by simp)

theorem alike_readItems (ih : ReadsAlike allowance) (h : room ≤ more) (seen : List Value)
    (cs : List Char) : readItems (allowance + 1) room seen cs = .error .tooDeep ∨
      readItems (allowance + 1) room seen cs = readItems (allowance + 1) more seen cs := by
  rw [readItems.eq_def, readItems.eq_def]
  dsimp only
  rcases ih.value h cs with hdeep | heq
  · rw [hdeep]
    exact Or.inl rfl
  · rw [heq]
    split
    · exact Or.inr rfl
    · split
      · exact ih.items h _ _
      · exact Or.inr rfl
      · exact Or.inr rfl

theorem alike_readFields (ih : ReadsAlike allowance) (h : room ≤ more)
    (seen : List (String × Value)) (cs : List Char) :
    readFields (allowance + 1) room seen cs = .error .tooDeep ∨
      readFields (allowance + 1) room seen cs = readFields (allowance + 1) more seen cs := by
  rw [readFields.eq_def, readFields.eq_def]
  dsimp only
  split
  · split
    · exact Or.inr rfl
    · split
      · next key _ _ rest _ =>
        rcases ih.value h (skipSpace rest) with hdeep | heq
        · rw [hdeep]
          exact Or.inl rfl
        · rw [heq]
          split
          · exact Or.inr rfl
          · split
            · exact ih.fields h _ _
            · exact Or.inr rfl
            · exact Or.inr rfl
      · exact Or.inr rfl
  · exact Or.inr rfl

end Step

theorem readsAlike (allowance : Nat) : ReadsAlike allowance := by
  induction allowance with
  | zero => exact ⟨fun _ _ => Or.inr rfl, fun _ _ _ => Or.inr rfl, fun _ _ _ => Or.inr rfl⟩
  | succ allowance ih => exact ⟨alike_readValue ih, alike_readItems ih, alike_readFields ih⟩

theorem read_of_le {room more : Nat} (h : room ≤ more) (s : String) :
    read room s = .error .tooDeep ∨ read room s = read more s := by
  simp only [read]
  rcases (readsAlike (2 * (skipSpace s.toList).length + 1)).value h (skipSpace s.toList) with hdeep | heq
  · rw [hdeep]
    exact Or.inl rfl
  · rw [heq]
    exact Or.inr rfl

/-- Each bracket takes one place of the room, and the next one stands in it. -/
theorem readValue_brackets {room count allowance : Nat} (h : room < count)
    (hallowance : 2 * room < allowance) :
    readValue allowance room (List.replicate count '[') = .error .tooDeep := by
  induction room generalizing count allowance with
  | zero =>
    obtain ⟨count, rfl⟩ := Nat.exists_eq_add_of_lt h
    obtain ⟨allowance, rfl⟩ := Nat.exists_eq_add_of_lt hallowance
    rw [Nat.zero_add, List.replicate_succ, readValue]
  | succ room ih =>
    obtain ⟨count, rfl⟩ : ∃ rest, count = rest + 2 := ⟨count - 2, by omega⟩
    obtain ⟨allowance, rfl⟩ : ∃ rest, allowance = rest + 2 := ⟨allowance - 2, by omega⟩
    have hinner : readValue allowance room (List.replicate (count + 1) '[') = .error .tooDeep :=
      ih (by omega) (by omega)
    rw [List.replicate_succ] at hinner ⊢
    rw [List.replicate_succ, readValue]
    have hskip : skipSpace ('[' :: List.replicate count '[') = '[' :: List.replicate count '[' := rfl
    simp [hskip, readItems, hinner]

/-- As many brackets as there is no room for are no document, and are not found to be none either. -/
theorem read_brackets {room count : Nat} (h : room < count) :
    read room (String.ofList (List.replicate count '[')) = .error .tooDeep := by
  obtain ⟨rest, rfl⟩ := Nat.exists_eq_add_of_lt h
  have hskip : skipSpace (List.replicate (room + rest + 1) '[') =
      List.replicate (room + rest + 1) '[' := rfl
  simp only [read, String.toList_ofList, hskip]
  rw [readValue_brackets h (by simp; omega)]

end TaleLoom.Value
