import TaleLoom.Desk
/-!
When a file can be written. `FileTree.Accepts` says what the tree has to be like at a path and at the
folders above it; then its folders can be made and the file written, and the tree accepts the file
again.
-/

namespace TaleLoom.FileTree

def Free (tree : FileTree) (steps : List String) : Prop :=
  tree.isFolder steps = true ∨ tree.content? steps = none

def Accepts (tree : FileTree) (p : Path) : Prop :=
  tree.isFolder p.steps = false ∧ ∀ holder ∈ holders p.steps, tree.Free holder

variable {tree : FileTree}

def makeFolder (tree : FileTree) (holder : List String) : Except Fault FileTree :=
  if tree.isFolder holder then .ok tree
  else if (tree.content? holder).isSome then .error .notAFolder
  else .ok { tree with folders := tree.folders ++ [holder] }

theorem isFolder_append (tree : FileTree) (holder steps : List String) :
    isFolder { tree with folders := tree.folders ++ [holder] } steps =
      (tree.isFolder steps || steps == holder) := by
  simp [isFolder, Bool.or_assoc, Bool.beq_eq_decide_eq]

theorem makeFolder_of_free {holder : List String} (h : tree.Free holder) :
    ∃ tree', tree.makeFolder holder = .ok tree' ∧ tree'.files = tree.files ∧
      ∀ steps, tree'.isFolder steps = (tree.isFolder steps || steps == holder) := by
  cases hfolder : tree.isFolder holder with
  | true =>
    refine ⟨tree, by simp [makeFolder, hfolder], rfl, fun steps => ?_⟩
    by_cases hsteps : steps = holder
    · simp [hsteps, hfolder]
    · simp [hsteps]
  | false =>
    have hcontent : tree.content? holder = none := h.resolve_left (by simp [hfolder])
    exact ⟨{ tree with folders := tree.folders ++ [holder] }, by simp [makeFolder, hfolder, hcontent],
      rfl, isFolder_append tree holder⟩

theorem makeFolder_of_not_free {holder : List String} (h : ¬ tree.Free holder) :
    tree.makeFolder holder = .error .notAFolder := by
  simp only [Free, not_or, Bool.not_eq_true] at h
  have hcontent := Option.isSome_iff_ne_none.2 h.2
  simp [makeFolder, h.1, hcontent]

/-- Folders can be made where each of them can be. -/
theorem foldlM_makeFolder {steps : List (List String)} (h : ∀ holder ∈ steps, tree.Free holder) :
    ∃ tree', steps.foldlM makeFolder tree = .ok tree' ∧ tree'.files = tree.files ∧
      ∀ s, tree'.isFolder s = (tree.isFolder s || steps.contains s) := by
  induction steps generalizing tree with
  | nil => exact ⟨tree, rfl, rfl, by simp⟩
  | cons holder rest ih =>
    obtain ⟨next, hnext, hfiles, hfolder⟩ := makeFolder_of_free (h holder List.mem_cons_self)
    have hrest : ∀ s ∈ rest, next.Free s := by
      intro s hs
      rcases h s (List.mem_cons_of_mem _ hs) with hthere | hnone
      · exact Or.inl (by simp [hfolder, hthere])
      · exact Or.inr (by rw [content?, hfiles]; exact hnone)
    obtain ⟨last, hlast, hfiles', hfolder'⟩ := ih hrest
    refine ⟨last, ?_, hfiles'.trans hfiles, fun s => ?_⟩
    · rw [List.foldlM_cons, hnext]
      exact hlast
    · rw [hfolder', hfolder, List.contains_cons, Bool.or_assoc]

theorem foldlM_makeFolder_error {steps : List (List String)}
    (h : ¬ ∀ holder ∈ steps, tree.Free holder) :
    steps.foldlM makeFolder tree = .error .notAFolder := by
  induction steps generalizing tree with
  | nil => exact absurd (by simp) h
  | cons holder rest ih =>
    by_cases hfree : tree.Free holder
    · obtain ⟨next, hnext, hfiles, hfolder⟩ := makeFolder_of_free hfree
      have hrest : ¬ ∀ s ∈ rest, next.Free s := by
        intro hrest
        apply h
        intro s hs
        rcases List.mem_cons.1 hs with rfl | hs
        · exact hfree
        · -- making the first folder frees only that folder itself
          rcases hrest s hs with hthere | hnone
          · rw [hfolder, Bool.or_eq_true, beq_iff_eq] at hthere
            rcases hthere with hthere | rfl
            · exact Or.inl hthere
            · exact hfree
          · exact Or.inr (by rw [content?, ← hfiles]; exact hnone)
      rw [List.foldlM_cons, hnext]
      exact ih hrest
    · rw [List.foldlM_cons, makeFolder_of_not_free hfree]
      rfl

theorem not_mem_holders (steps : List String) : steps ∉ holders steps := by
  intro h
  obtain ⟨i, hi, heq⟩ := List.mem_map.1 h
  have hlt := List.mem_range.1 hi
  have hlen := congrArg List.length heq
  rw [List.length_take] at hlen
  omega

/-- Where the tree accepts a file its folders are made, and the tree accepts it still. -/
theorem makeFolders_ok {p : Path} (h : tree.Accepts p) :
    ∃ tree', tree.makeFolders p = .ok tree' ∧ tree'.isFolder p.steps = false ∧
      ∀ holder ∈ holders p.steps, tree'.isFolder holder = true := by
  obtain ⟨tree', hmake, -, hfolder⟩ := foldlM_makeFolder h.2
  refine ⟨tree', hmake, ?_, fun holder hholder => ?_⟩
  · rw [hfolder, h.1]
    simpa using not_mem_holders p.steps
  · rw [hfolder]
    simp [hholder]

theorem write_ok {p : Path} (hfile : tree.isFolder p.steps = false)
    (hholders : ∀ holder ∈ holders p.steps, tree.isFolder holder = true) (content : Content) :
    tree.write p content = .ok { tree with files := Keyed.set p.steps content tree.files } := by
  have hblocked : tree.blocked? p.steps = none := by
    rw [blocked?, List.findSome?_eq_none_iff]
    intro holder hholder
    simp [hholders holder hholder]
  simp only [write, hfile, Bool.false_eq_true, if_false, hblocked]

theorem write_folder {p : Path} (h : tree.isFolder p.steps = true) (content : Content) :
    tree.write p content = .error .isFolder := by
  simp [write, h]

end TaleLoom.FileTree
