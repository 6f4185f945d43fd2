import ModelForge.Proofs.Code.Paths

/-! # Places of compiled modules

Whatever a module is called, its file has the name `__init__.pyc` in directories whose names hold no
point (`ModelForge.Code.exists_artifactTarget`). So the way to one of these files leads through the
place of another one only if the way to the directory of all of them does
(`ModelForge.Code.way_of_artifact`). Modules whose relative paths differ have different places
(`ModelForge.Code.nodup_artifactPlaces`).
-/

namespace ModelForge

namespace Path

/-- No name of a path holds a point. -/
def Pointless (p : Path) : Prop := ∀ part ∈ p.parts, '.' ∉ part.toList

theorem pointless_child {p : Path} {name : String} (pointless : p.Pointless)
    (free : '.' ∉ name.toList) : (p.child name).Pointless := by
  have names : (ofString name).Pointless := by
    intro part member
    obtain ⟨seg, inside, rfl⟩ := List.mem_map.mp (List.mem_filter.mp member).1
    rw [String.toList_ofList]
    exact fun point => free (Segments.mem_of_mem_splitOn inside point)
  unfold child append
  split
  · exact names
  · exact List.forall_mem_append.mpr ⟨pointless, names⟩

/-- Names without points lead to a path without them. -/
theorem pointless_foldl_child {p : Path} {names : List String} (pointless : p.Pointless)
    (free : ∀ name ∈ names, '.' ∉ name.toList) : (names.foldl child p).Pointless := by
  induction names generalizing p with
  | nil => exact pointless
  | cons name names ih =>
    obtain ⟨first, others⟩ := List.forall_mem_cons.mp free
    exact ih (pointless_child pointless first) others

end Path

namespace Disk

open Files (Location)

variable {d : Disk} {root : Path} {names : List String} {name : String} {l : Location}

/-- The way to names below a directory leads through a place with another name only if the way to
the directory does. -/
theorem way_of_way_beneath (plain : ".." ∉ names) (other : name ∉ names)
    (way : d.Way (beneath root names) (l ++ [name])) : d.Way root (l ++ [name]) := by
  induction names using List.reverseRecOn with
  | nil => rwa [beneath_nil] at way
  | append_singleton names last ih =>
    rw [List.mem_append, List.mem_singleton, not_or] at plain other
    rw [← inside_beneath] at way
    rcases way_inside way with above | same
    · exact ih plain.1 other.1 above
    · rw [onward_of_ne (Ne.symm plain.2)] at same
      exact absurd (List.cons.inj (List.append_inj' same rfl).2).1 other.2

end Disk

namespace Code

open Disk (beneath)

variable {d : Disk} {directory : Path} {m m' : CompiledModule} {modules : List CompiledModule}

/-- The name of the file of a compiled module. -/
def artifactName : String := "__init__.pyc"

/-- Where the file of a module is put below a directory. -/
def artifactTarget (directory : Path) (m : CompiledModule) : Path :=
  directory.append (artifactPath m.name)

/-- The directory of a module has no points in it. -/
theorem pointless_moduleDirectory (name : String) : (moduleDirectory name).Pointless := by
  refine Path.pointless_foldl_child (fun _ none => (nomatch none)) fun part member point => ?_
  exact not_mem_of_mem_nameParts member point

/-- The file of a module stands below its directory, or below the root if its name leads there. -/
theorem exists_artifactTarget (directory : Path) (m : CompiledModule) : ∃ base names,
    (base = directory ∨ base.isAbsolute = true ∧ base.parts = []) ∧
      (∀ part ∈ names, '.' ∉ part.toList) ∧
      artifactTarget directory m = beneath base (names ++ [artifactName]) := by
  have pointless := pointless_moduleDirectory m.name
  unfold artifactTarget artifactPath
  generalize moduleDirectory m.name = below at pointless
  change ∃ base names, _ ∧ _ ∧
    directory.append ⟨below.root, below.parts ++ [artifactName]⟩ = _
  unfold Path.append
  split
  · next absolute => exact ⟨⟨below.root, []⟩, below.parts, .inr ⟨absolute, rfl⟩, pointless, rfl⟩
  · exact ⟨directory, below.parts, .inl rfl, pointless, rfl⟩

/-- A list of names without points has neither a step back nor the name of an artifact in it. -/
theorem not_mem_of_pointless {names : List String} (pointless : ∀ part ∈ names, '.' ∉ part.toList) :
    ".." ∉ names ∧ artifactName ∉ names :=
  ⟨fun member => pointless _ member (by decide), fun member => pointless _ member (by decide)⟩

/-- No step back is on the way of a compiled module. -/
theorem parent_not_mem_artifact {names : List String}
    (pointless : ∀ part ∈ names, '.' ∉ part.toList) :
    ".." ∉ names ++ [artifactName] := by
  rw [List.mem_append, List.mem_singleton]
  rintro (member | same)
  · exact (not_mem_of_pointless pointless).1 member
  · exact absurd same (by decide)

/-- All compiled modules have one file name. -/
theorem exists_place_eq (d : Disk) (directory : Path) (m : CompiledModule) :
    ∃ l, d.place (artifactTarget directory m) = l ++ [artifactName] := by
  obtain ⟨base, names, -, pointless, same⟩ := exists_artifactTarget directory m
  rw [same, Disk.place_beneath (parent_not_mem_artifact pointless), ← List.append_assoc]
  exact ⟨_, rfl⟩

/-- The way to the file of a module leads through the file of another one only if the way to the
directory of both does. -/
theorem way_of_artifact (way : d.Way (artifactTarget directory m').parent
      (d.place (artifactTarget directory m))) :
    d.Way directory (d.place (artifactTarget directory m)) := by
  obtain ⟨l, place⟩ := exists_place_eq d directory m
  obtain ⟨base, names, start, pointless, same⟩ := exists_artifactTarget directory m'
  obtain ⟨plain, other⟩ := not_mem_of_pointless pointless
  rw [place] at way ⊢
  rw [same, Disk.parent_beneath] at way
  have led := Disk.way_of_way_beneath plain other way
  rcases start with rfl | ⟨absolute, top⟩
  · exact led
  · -- only the root itself is on the way to the root
    obtain ⟨above, short, ends⟩ := led
    rw [top, List.prefix_nil] at short
    rw [short, Disk.start, if_pos absolute] at ends
    simp at ends

/-- The place of a file that is not named from the root lies below that of the directory. -/
theorem place_of_relative (d : Disk) (directory : Path)
    (relative : (artifactPath m.name).isAbsolute = false) :
    d.place (artifactTarget directory m) = d.place directory ++ (artifactPath m.name).parts := by
  have below : artifactTarget directory m = beneath directory (artifactPath m.name).parts :=
    if_neg (Bool.eq_false_iff.mp relative)
  rw [below]
  exact Disk.place_beneath (parent_not_mem_artifact (pointless_moduleDirectory m.name)) d directory

/-- A path leads through what is below its end only where it has steps back. -/
theorem of_way_directory (way : d.Way directory (d.place (artifactTarget directory m))) :
    ".." ∈ directory.parts ∨ (artifactPath m.name).isAbsolute = true := by
  by_contra neither
  obtain ⟨plain, relative⟩ := not_or.mp neither
  have shorter := (Disk.prefix_of_way plain way).length_le
  rw [place_of_relative d directory (Bool.eq_false_iff.mpr relative)] at shorter
  change _ ≤ (d.place directory).length at shorter
  have some_name : (artifactPath m.name).parts.length =
      (moduleDirectory m.name).parts.length + 1 := List.length_append
  rw [List.length_append] at shorter
  omega

/-- Modules whose relative paths differ have different places. -/
theorem nodup_artifactPlaces (d : Disk) (directory : Path)
    (relative : ∀ m ∈ modules, (artifactPath m.name).isAbsolute = false)
    (differ : (modules.map fun m => artifactPath m.name).Nodup) :
    (modules.map fun m => d.place (artifactTarget directory m)).Nodup := by
  have places : (modules.map fun m => d.place (artifactTarget directory m)) =
      (modules.map fun m => artifactPath m.name).map fun p => d.place directory ++ p.parts := by
    rw [List.map_map]
    exact List.map_congr_left fun m member => place_of_relative d directory (relative m member)
  rw [places]
  refine List.Nodup.map_on (fun p inside q inside' same => ?_) differ
  obtain ⟨m, member, rfl⟩ := List.mem_map.mp inside
  obtain ⟨m', member', rfl⟩ := List.mem_map.mp inside'
  have root {p : Path} (here : p.isAbsolute = false) : p.root = .here := by
    unfold Path.isAbsolute at here
    simpa using here
  have roots := (root (relative m member)).trans (root (relative m' member')).symm
  have parts := List.append_cancel_left same
  generalize artifactPath m.name = p at roots parts
  generalize artifactPath m'.name = q at roots parts
  cases p
  cases q
  cases roots
  cases parts
  rfl

end Code

end ModelForge
