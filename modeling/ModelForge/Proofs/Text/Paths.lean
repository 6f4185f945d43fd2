import ModelForge.Text.Identifier

/-! # Element paths

A package of identifiers and an identifier make an element path
(`ModelForge.isElementPath_qualify`): the segments of a qualified path are those of the package and
the name (`ModelForge.Segments.splitOnPair_append`).
-/

namespace ModelForge

namespace Segments

variable {sep : Char} {s t : List Char}

theorem consHead_append (c : Char) {segs : List (List Char)} (some_seg : segs ≠ [])
    (more : List (List Char)) : consHead c (segs ++ more) = consHead c segs ++ more := by
  cases segs with
  | nil => exact absurd rfl some_seg
  | cons seg segs => rfl

/-- Segments hold no separator if they hold none with a character in front. -/
theorem forall_mem_consHead {c : Char} {segs : List (List Char)}
    (free : ∀ seg ∈ consHead c segs, sep ∉ seg) : ∀ seg ∈ segs, sep ∉ seg := by
  cases segs with
  | nil =>
    intro _ none
    cases none
  | cons first segs =>
    obtain ⟨head, tail⟩ := List.forall_mem_cons.mp free
    refine List.forall_mem_cons.mpr ⟨fun member => head (List.mem_cons_of_mem c member), tail⟩

/-- A doubled separator between texts whose segments are free of it cuts there. -/
theorem splitOnPair_append (free : ∀ seg ∈ splitOnPair sep s, sep ∉ seg) (t : List Char) :
    splitOnPair sep (s ++ sep :: sep :: t) = splitOnPair sep s ++ splitOnPair sep t := by
  fun_induction splitOnPair sep s with
  | case1 => simp [splitOnPair]
  | case2 c =>
    have other : c ≠ sep := by
      rintro rfl
      exact free [c] List.mem_cons_self List.mem_cons_self
    simp [splitOnPair, other, consHead]
  | case3 c d rest same ih =>
    obtain ⟨rfl, rfl⟩ := same
    simp only [List.cons_append, splitOnPair, and_self, ↓reduceIte, List.cons.injEq, true_and]
    exact ih fun seg member => free seg (List.mem_cons_of_mem _ member)
  | case4 c d rest other ih =>
    simp only [List.cons_append, splitOnPair, if_neg other]
    rw [← List.cons_append, ih (forall_mem_consHead free),
      consHead_append c (splitOnPair_ne_nil sep (d :: rest))]

/-- A text without the separator is its only segment. -/
theorem splitOnPair_of_not_mem (free : sep ∉ t) : splitOnPair sep t = [t] := by
  fun_induction splitOnPair sep t with
  | case1 => rfl
  | case2 => rfl
  | case3 c d rest same ih =>
    obtain ⟨rfl, rfl⟩ := same
    exact absurd List.mem_cons_self free
  | case4 c d rest other ih =>
    rw [ih fun member => free (List.mem_cons_of_mem c member)]
    rfl

end Segments

namespace Identifier

variable {s : List Char}

theorem isStart_of_isLower {c : Char} (small : c.isLower = true) : isStart c = true := by
  have letter : c.isAlpha = true := (Bool.or_eq_true _ _).mpr (.inr small)
  exact (Bool.or_eq_true _ _).mpr (.inl letter)

theorem isPart_of_isDigit {c : Char} (digit : c.isDigit = true) : isPart c = true := by
  have sign : c.isAlphanum = true := (Bool.or_eq_true _ _).mpr (.inr digit)
  exact (Bool.or_eq_true _ _).mpr (.inl sign)

theorem isPart_of_isStart {c : Char} (start : isStart c = true) : isPart c = true := by
  unfold isStart at start
  unfold isPart Char.isAlphanum
  rcases Bool.or_eq_true_iff.mp start with letter | underscore
  · rw [letter]
    rfl
  · rw [underscore, Bool.or_true]

/-- An identifier consists of parts of identifiers. -/
theorem isPart_of_mem (formed : wellFormed s = true) {c : Char} (member : c ∈ s) :
    isPart c = true := by
  cases s with
  | nil => cases member
  | cons first rest =>
    obtain ⟨start, parts⟩ := (Bool.and_eq_true _ _).mp formed
    rcases List.mem_cons.mp member with rfl | behind
    · exact isPart_of_isStart start
    · exact List.all_eq_true.mp parts c behind

theorem colon_not_mem (formed : wellFormed s = true) : ':' ∉ s :=
  fun member => absurd (isPart_of_mem formed member) (by decide)

end Identifier

/-- The segments of a qualified path are those of the package and the name. -/
theorem splitOnPair_qualify {package name : String} (formed : isElementPath package = true)
    (identified : isIdentifier name = true) :
    Segments.splitOnPair ':' (qualify package name).toList =
      Segments.splitOnPair ':' package.toList ++ [name.toList] := by
  have segments : ∀ seg ∈ Segments.splitOnPair ':' package.toList,
      Identifier.wellFormed seg = true := List.all_eq_true.mp formed
  have free : ':' ∉ name.toList := Identifier.colon_not_mem identified
  unfold qualify
  rw [String.toList_append, String.toList_append, List.append_assoc,
    ← Segments.splitOnPair_of_not_mem free]
  exact Segments.splitOnPair_append
    (fun seg member => Identifier.colon_not_mem (segments seg member)) name.toList

/-- A package of identifiers and an identifier make an element path. -/
theorem isElementPath_qualify {package name : String} (formed : isElementPath package = true)
    (identified : isIdentifier name = true) : isElementPath (qualify package name) = true := by
  have segments : ∀ seg ∈ Segments.splitOnPair ':' package.toList,
      Identifier.wellFormed seg = true := List.all_eq_true.mp formed
  unfold isElementPath
  rw [splitOnPair_qualify formed identified, List.all_append, List.all_eq_true.mpr segments,
    List.all_cons, List.all_nil]
  exact (Bool.and_true _).trans identified

end ModelForge
