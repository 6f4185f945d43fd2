import ModelForge.Code.Render
import ModelForge.Proofs.Text.Paths

/-! # Packages and modules

A declared element is split into its package and its name without loss
(`ModelForge.Element.package_ofDeclaration`). A module name holds the segments of its package
(`ModelForge.Code.splitOn_moduleName`), so different packages have different modules
(`ModelForge.Code.moduleName_injective`), and a joined name is cut into the parts that it was joined
of (`ModelForge.Code.nameParts_intercalate`).
-/

namespace ModelForge

namespace Segments

variable {sep : Char} {s t : List Char}

theorem splitOn_of_not_mem (free : sep ∉ s) : splitOn sep s = [s] := by
  induction s with
  | nil => rfl
  | cons c rest ih =>
    have differs : c ≠ sep := fun same => free (same ▸ List.mem_cons_self)
    rw [splitOn, if_neg differs, ih fun member => free (List.mem_cons_of_mem c member)]
    rfl

/-- A separator always cuts. -/
theorem splitOn_append (sep : Char) (s t : List Char) :
    splitOn sep (s ++ sep :: t) = splitOn sep s ++ splitOn sep t := by
  induction s with
  | nil => exact if_pos rfl
  | cons c rest ih =>
    rw [List.cons_append, splitOn, splitOn]
    split
    · rw [ih]
      rfl
    · rw [ih, consHead_append c (splitOn_ne_nil sep rest)]

/-- Cutting a joined list cuts each of its items. -/
theorem splitOn_joinWith (sep : Char) {segs : List (List Char)} (some_seg : segs ≠ []) :
    splitOn sep (joinWith [sep] segs) = segs.flatMap (splitOn sep) := by
  induction segs with
  | nil => exact absurd rfl some_seg
  | cons first rest ih =>
    cases rest with
    | nil => exact (List.flatMap_singleton _ _).symm
    | cons next rest =>
      have joined : joinWith [sep] (first :: next :: rest) =
          first ++ sep :: joinWith [sep] (next :: rest) := by
        rw [joinWith, List.append_assoc]
        rfl
      rw [joined, splitOn_append, ih (List.cons_ne_nil next rest)]
      rfl

/-- Segments without the separator are read back. -/
theorem splitOn_joinWith_of_free {segs : List (List Char)} (some_seg : segs ≠ [])
    (free : ∀ seg ∈ segs, sep ∉ seg) : splitOn sep (joinWith [sep] segs) = segs := by
  rw [splitOn_joinWith sep some_seg]
  clear some_seg
  induction segs with
  | nil => rfl
  | cons first rest ih =>
    obtain ⟨head, tail⟩ := List.forall_mem_cons.mp free
    rw [List.flatMap_cons, ih tail, splitOn_of_not_mem head]
    rfl

/-- No segment holds the separator. -/
theorem not_mem_of_mem_splitOn {seg : List Char} (member : seg ∈ splitOn sep s) : sep ∉ seg := by
  induction s generalizing seg with
  | nil =>
    rw [List.mem_singleton.mp member]
    exact List.not_mem_nil
  | cons c rest ih =>
    rw [splitOn] at member
    split at member
    · rcases List.mem_cons.mp member with rfl | behind
      · exact List.not_mem_nil
      · exact ih behind
    · next differs =>
      cases segments : splitOn sep rest with
      | nil => exact absurd segments (splitOn_ne_nil sep rest)
      | cons first others =>
        rw [segments] at member ih
        rcases List.mem_cons.mp member with rfl | behind
        · intro inside
          rcases List.mem_cons.mp inside with same | inside
          · exact differs same.symm
          · exact ih List.mem_cons_self inside
        · exact ih (List.mem_cons_of_mem first behind)

/-- A joined text holds characters of its segments and of the separator. -/
theorem mem_joinWith {sep : List Char} {segs : List (List Char)} {c : Char}
    (member : c ∈ joinWith sep segs) : c ∈ sep ∨ ∃ seg ∈ segs, c ∈ seg := by
  induction segs with
  | nil => cases member
  | cons first rest ih =>
    cases rest with
    | nil => exact .inr ⟨first, List.mem_cons_self, member⟩
    | cons next rest =>
      rcases List.mem_append.mp member with head | tail
      · rcases List.mem_append.mp head with inFirst | inSep
        · exact .inr ⟨first, List.mem_cons_self, inFirst⟩
        · exact .inl inSep
      · exact (ih tail).imp_right fun ⟨seg, behind, inside⟩ =>
          ⟨seg, List.mem_cons_of_mem first behind, inside⟩

theorem mem_joinWith_of_mem {sep : List Char} {segs : List (List Char)} {seg : List Char}
    {c : Char} (member : seg ∈ segs) (inside : c ∈ seg) : c ∈ joinWith sep segs := by
  induction segs with
  | nil => cases member
  | cons first rest ih =>
    cases rest with
    | nil => rwa [List.mem_singleton.mp member] at inside
    | cons next rest =>
      rw [joinWith, List.mem_append, List.mem_append]
      rcases List.mem_cons.mp member with rfl | behind
      · exact .inl (.inl inside)
      · exact .inr (ih behind)

/-- What is in a segment is in the whole. -/
theorem mem_of_mem_splitOn {seg : List Char} {c : Char} (member : seg ∈ splitOn sep s)
    (inside : c ∈ seg) : c ∈ s := by
  rw [← joinWith_splitOn sep s]
  exact mem_joinWith_of_mem member inside

/-- What is no separator is in a segment. -/
theorem exists_mem_splitOn {c : Char} (member : c ∈ s) (differs : c ≠ sep) :
    ∃ seg ∈ splitOn sep s, c ∈ seg := by
  rw [← joinWith_splitOn sep s] at member
  rcases mem_joinWith member with same | found
  · exact absurd (List.mem_singleton.mp same) differs
  · exact found

/-- Texts joined by the library are the joined characters. -/
theorem toList_intercalate (sep : String) (texts : List String) :
    (String.intercalate sep texts).toList = joinWith sep.toList (texts.map String.toList) := by
  rw [String.toList_intercalate]
  generalize texts.map String.toList = segs
  induction segs with
  | nil => rfl
  | cons first rest ih =>
    cases rest with
    | nil => exact List.append_nil first
    | cons next rest =>
      rw [joinWith, ← ih, List.append_assoc]
      rfl

end Segments

/-- The segments of a path joined again. -/
theorem intercalate_pathSegments (path : String) :
    String.intercalate "::" (pathSegments path) = path := by
  apply String.toList_inj.mp
  rw [Segments.toList_intercalate]
  unfold pathSegments
  rw [List.map_map]
  have back : (String.toList ∘ String.ofList) = id := funext fun _ => String.toList_ofList
  rw [back, List.map_id]
  exact Segments.joinWith_splitOnPair ':' path.toList

namespace Element

variable {package : String} {declaration : Declaration}

/-- The path of a declared element: its package and its name. -/
theorem pathSegments_ofDeclaration (formed : isElementPath package = true)
    (identified : isIdentifier declaration.name = true) (repository source : String) :
    pathSegments (ofDeclaration package repository source declaration).path =
      pathSegments package ++ [declaration.name] := by
  unfold ofDeclaration pathSegments
  rw [splitOnPair_qualify formed identified, List.map_append, List.map_singleton,
    String.ofList_toList]

/-- The package of a declared element is that of its source file. -/
theorem package_ofDeclaration (formed : isElementPath package = true)
    (identified : isIdentifier declaration.name = true) (repository source : String) :
    (ofDeclaration package repository source declaration).package = package := by
  unfold Element.package
  rw [pathSegments_ofDeclaration formed identified, List.dropLast_concat]
  exact intercalate_pathSegments package

/-- The name of a declared element is the one it was declared with. -/
theorem name_ofDeclaration (formed : isElementPath package = true)
    (identified : isIdentifier declaration.name = true) (repository source : String) :
    (ofDeclaration package repository source declaration).name = declaration.name := by
  unfold Element.name
  rw [pathSegments_ofDeclaration formed identified, List.getLast?_concat]
  rfl

/-- An element whose path is its package and its name. -/
structure Placed (e : Element) : Prop where
  package : isElementPath e.package = true
  name : isIdentifier e.name = true
  path : e.path = qualify e.package e.name

/-- An element that comes from a declaration stands in its package. -/
theorem placed_ofDeclaration (formed : isElementPath package = true)
    (identified : isIdentifier declaration.name = true) (repository source : String) :
    Placed (ofDeclaration package repository source declaration) := by
  have package := package_ofDeclaration formed identified repository source
  have name := name_ofDeclaration formed identified repository source
  refine ⟨by rwa [package], by rwa [name], ?_⟩
  rw [package, name]
  rfl

/-- The path of an element in its package has the form of paths. -/
theorem Placed.isElementPath {e : Element} (placed : Placed e) : isElementPath e.path = true := by
  rw [placed.path]
  exact isElementPath_qualify placed.package placed.name

end Element

namespace Code

variable {a b : String}

/-- The name of a module has the segments of its package. -/
theorem splitOn_moduleName (formed : isElementPath a = true) :
    Segments.splitOn '.' (moduleName a).toList = Segments.splitOnPair ':' a.toList := by
  have segments : ∀ seg ∈ Segments.splitOnPair ':' a.toList,
      Identifier.wellFormed seg = true := List.all_eq_true.mp formed
  unfold moduleName
  rw [String.toList_ofList]
  refine Segments.splitOn_joinWith_of_free (Segments.splitOnPair_ne_nil ':' a.toList) ?_
  intro seg member dot
  exact absurd (Identifier.isPart_of_mem (segments seg member) dot) (by decide)

/-- Different packages have different modules. -/
theorem moduleName_injective (formed : isElementPath a = true) (formed' : isElementPath b = true)
    (same : moduleName a = moduleName b) : a = b := by
  have segments : Segments.splitOnPair ':' a.toList = Segments.splitOnPair ':' b.toList := by
    rw [← splitOn_moduleName formed, same, splitOn_moduleName formed']
  apply String.toList_inj.mp
  rw [← Segments.joinWith_splitOnPair ':' a.toList, segments, Segments.joinWith_splitOnPair]

/-! ## The parts of a dotted name -/

/-- A joined name has the parts of both. -/
@[simp]
theorem nameParts_append (a b : String) :
    nameParts (a ++ "." ++ b) = nameParts a ++ nameParts b := by
  unfold nameParts
  rw [String.toList_append, String.toList_append, List.append_assoc]
  exact (congrArg _ (Segments.splitOn_append '.' a.toList b.toList)).trans List.map_append

/-- The parts of the name of a module are the segments of its package. -/
theorem nameParts_moduleName (formed : isElementPath a = true) :
    nameParts (moduleName a) = pathSegments a := by
  unfold nameParts pathSegments
  rw [splitOn_moduleName formed]

theorem nameParts_of_not_mem (free : '.' ∉ a.toList) : nameParts a = [a] := by
  unfold nameParts
  rw [Segments.splitOn_of_not_mem free, List.map_singleton, String.ofList_toList]

/-- No part holds a dot. -/
theorem not_mem_of_mem_nameParts {part : String} (member : part ∈ nameParts a) :
    '.' ∉ part.toList := by
  obtain ⟨seg, inside, rfl⟩ := List.mem_map.mp member
  rw [String.toList_ofList]
  exact Segments.not_mem_of_mem_splitOn inside

theorem nameParts_ne_nil (a : String) : nameParts a ≠ [] :=
  fun none => Segments.splitOn_ne_nil '.' a.toList (List.map_eq_nil_iff.mp none)

/-- The parts of a name joined again. -/
theorem intercalate_nameParts (a : String) : String.intercalate "." (nameParts a) = a := by
  apply String.toList_inj.mp
  rw [Segments.toList_intercalate]
  unfold nameParts
  rw [List.map_map]
  have back : (String.toList ∘ String.ofList) = id := funext fun _ => String.toList_ofList
  rw [back, List.map_id]
  exact Segments.joinWith_splitOn '.' a.toList

/-- Names are told apart by their parts. -/
theorem nameParts_injective : Function.Injective nameParts := fun a b same => by
  rw [← intercalate_nameParts a, same, intercalate_nameParts]

/-- Cutting a joined name gives the parts that it was joined of. -/
theorem nameParts_intercalate {parts : List String} (some_part : parts ≠ [])
    (free : ∀ part ∈ parts, '.' ∉ part.toList) :
    nameParts (String.intercalate "." parts) = parts := by
  have segments : Segments.splitOn '.' (String.intercalate "." parts).toList =
      parts.map String.toList := by
    rw [Segments.toList_intercalate]
    refine Segments.splitOn_joinWith_of_free
      (fun none => some_part (List.map_eq_nil_iff.mp none)) ?_
    intro seg member
    obtain ⟨part, inside, rfl⟩ := List.mem_map.mp member
    exact free part inside
  have back : String.ofList ∘ String.toList = id := funext fun _ => String.ofList_toList
  unfold nameParts
  rw [segments, List.map_map, back, List.map_id]

end Code

end ModelForge
