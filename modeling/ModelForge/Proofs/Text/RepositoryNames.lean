import ModelForge.Files.Path
import ModelForge.Proofs.Text.Packages

/-! # Names of repositories

The name of a repository starts with a small letter and holds no character that means something in
a path or a text of many lines (`ModelForge.letters_of_isRepositoryName`). So it is a path of one
name (`ModelForge.Path.ofString_of_isRepositoryName`).
-/

namespace ModelForge

variable {name : String}

/-- A legal name begins with a small letter. -/
theorem head_of_isRepositoryName (legal : isRepositoryName name = true) :
    ∃ c rest, name.toList = c :: rest ∧ c.isLower = true := by
  unfold isRepositoryName at legal
  split at legal
  · cases legal
  · next c rest shape => exact ⟨c, rest, shape, ((Bool.and_eq_true _ _).mp legal).1⟩

/-- A legal name holds small letters, digits, underscores and hyphens. -/
theorem letters_of_isRepositoryName (legal : isRepositoryName name = true) :
    ∀ c ∈ name.toList, (c.isLower || c.isDigit || c == '_' || c == '-') = true := by
  unfold isRepositoryName at legal
  split at legal
  · cases legal
  · next c rest shape =>
    obtain ⟨first, others⟩ := (Bool.and_eq_true _ _).mp legal
    rw [shape]
    refine List.forall_mem_cons.mpr ⟨?_, List.all_eq_true.mp others⟩
    rw [first]
    rfl

/-- A legal name holds no other character than small letters, digits, underscores and hyphens. -/
theorem not_mem_of_isRepositoryName {c : Char} (legal : isRepositoryName name = true)
    (other : (c.isLower || c.isDigit || c == '_' || c == '-') = false) : c ∉ name.toList := by
  intro member
  rw [letters_of_isRepositoryName legal c member] at other
  cases other

theorem isEmpty_of_isRepositoryName (legal : isRepositoryName name = true) :
    name.isEmpty = false := by
  obtain ⟨c, rest, shape, -⟩ := head_of_isRepositoryName legal
  cases empty : name.isEmpty with
  | false => rfl
  | true =>
    rw [String.isEmpty_iff.mp empty] at shape
    cases shape

/-- The name starts with a letter, so it is not hidden and does not lead back. -/
theorem head_ne_of_isRepositoryName (legal : isRepositoryName name = true) (rest : List Char) :
    name.toList ≠ '.' :: rest := by
  intro same
  have point : '.' ∉ name.toList := not_mem_of_isRepositoryName legal (by decide)
  exact point (same ▸ List.mem_cons_self)

theorem parent_ne_of_isRepositoryName (legal : isRepositoryName name = true) : name ≠ ".." := by
  rintro rfl
  exact head_ne_of_isRepositoryName legal ['.'] rfl

/-- As a path it is one name. -/
theorem Path.ofString_of_isRepositoryName (legal : isRepositoryName name = true) :
    Path.ofString name = .ofParts [name] := by
  have slash : '/' ∉ name.toList := not_mem_of_isRepositoryName legal (by decide)
  have whole : Segments.splitOn '/' name.toList = [name.toList] :=
    Segments.splitOn_of_not_mem slash
  have root : Path.rootOf name.toList = .here := by
    obtain ⟨c, rest, shape, -⟩ := head_of_isRepositoryName legal
    have first : c ≠ '/' := by
      rintro rfl
      exact slash (shape ▸ List.mem_cons_self)
    unfold Path.rootOf
    rw [shape, List.takeWhile_cons_of_neg (by simpa using first)]
    rfl
  have some_name : name ≠ "" := by
    rintro rfl
    cases legal
  have no_point : name ≠ "." := by
    rintro rfl
    cases legal
  unfold Path.ofString Path.partsOf
  rw [root, whole, List.map_singleton, String.ofList_toList]
  simp [some_name, no_point, Path.ofParts]

namespace Sample

/-! ## Names of samples -/

theorem legal_platform : isRepositoryName "platform" = true := by decide

theorem legal_a : isRepositoryName "a" = true := by decide

theorem legal_q : isRepositoryName "q" = true := by decide

end Sample

end ModelForge
