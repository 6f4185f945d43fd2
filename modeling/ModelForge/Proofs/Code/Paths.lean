import ModelForge.Proofs.Code.Importable
import ModelForge.Proofs.Files.Confined

/-! # Where the modules of generated code are put

A module lies below the directory of its code, one directory for each part of its name. The parts
hold no point and empty ones are left out, so no name leads back or starts anew at the root as long
as it holds no slash (`ModelForge.Code.exists_sourcePath`, `ModelForge.Code.exists_artifactPath`).
The names of generated modules and those of compiled modules hold none, whatever packages their
elements are in (`ModelForge.Code.flat_of_compile`).
-/

namespace ModelForge

/-- A name that holds no slash. -/
def Flat (name : String) : Prop := '/' ∉ name.toList

theorem flat_append {a b : String} : Flat (a ++ b) ↔ Flat a ∧ Flat b := by
  unfold Flat
  rw [String.toList_append, List.mem_append, not_or]

/-- Legal names of repositories hold no slashes. -/
theorem flat_of_isRepositoryName {name : String} (legal : isRepositoryName name = true) :
    Flat name :=
  not_mem_of_isRepositoryName legal (by decide)

namespace Path

/-- A text without slashes is one name, or none. -/
theorem ofString_of_flat {name : String} (flat : Flat name) (no_point : name ≠ ".") :
    ofString name = .ofParts ([name].filter fun part => part ≠ "") := by
  have whole : Segments.splitOn '/' name.toList = [name.toList] :=
    Segments.splitOn_of_not_mem flat
  have root : rootOf name.toList = .here := by
    unfold rootOf
    cases shape : name.toList with
    | nil => rfl
    | cons c rest =>
      have first : c ≠ '/' := by
        rintro rfl
        exact flat (shape ▸ List.mem_cons_self)
      rw [List.takeWhile_cons_of_neg (by simpa using first)]
      rfl
  unfold ofString partsOf
  rw [root, whole, List.map_singleton, String.ofList_toList]
  by_cases empty : name = ""
  · simp [empty, ofParts]
  · simp [empty, no_point, ofParts]

end Path

namespace Code

open Disk (beneath)

variable {name group : String} {directory : Path} {u : OutputUnit} {es : List Element}
  {code : Generation}

/-! ## Directories of modules -/

/-- Flat names below a path follow each other, and empty ones are dropped. -/
theorem foldl_child {parts : List String} (flat : ∀ part ∈ parts, Flat part ∧ part ≠ ".")
    (names : List String) : parts.foldl Path.child (.ofParts names) =
      .ofParts (names ++ parts.filter fun part => part ≠ "") := by
  induction parts generalizing names with
  | nil => exact congrArg Path.ofParts (List.append_nil names).symm
  | cons part parts ih =>
    obtain ⟨⟨first, no_point⟩, others⟩ := List.forall_mem_cons.mp flat
    rw [List.foldl_cons, Path.child, Path.ofString_of_flat first no_point]
    change parts.foldl Path.child (.ofParts (names ++ [part].filter fun part => part ≠ "")) = _
    rw [ih others, List.append_assoc, ← List.filter_append, List.singleton_append]

/-- The parts of a flat name are flat. -/
theorem flat_of_mem_nameParts {part : String} (flat : Flat name) (member : part ∈ nameParts name) :
    Flat part := by
  obtain ⟨seg, inside, rfl⟩ := List.mem_map.mp member
  unfold Flat
  rw [String.toList_ofList]
  exact fun slash => flat (Segments.mem_of_mem_splitOn inside slash)

/-- The directory of a module is that of the parts of its name. -/
theorem moduleDirectory_of_flat (flat : Flat name) :
    moduleDirectory name = .ofParts ((nameParts name).filter fun part => part ≠ "") := by
  unfold moduleDirectory
  rw [foldl_child, List.nil_append]
  intro part member
  refine ⟨flat_of_mem_nameParts flat member, ?_⟩
  rintro rfl
  exact not_mem_of_mem_nameParts member (by decide)

/-- No part of a name is a step back. -/
theorem parent_not_mem_nameParts (name : String) :
    ".." ∉ (nameParts name).filter fun part => part ≠ "" := by
  intro member
  exact not_mem_of_mem_nameParts (List.mem_filter.mp member).1 (by decide)

/-- A generated module is put below the directory of its group. -/
theorem exists_sourcePath (legal : isRepositoryName group = true) (flat : Flat name)
    (directory : Path) : ∃ names, ".." ∉ names ++ ["__init__.py"] ∧
      sourcePath directory group name = beneath directory (names ++ ["__init__.py"]) := by
  refine ⟨group :: (nameParts name).filter fun part => part ≠ "", ?_, ?_⟩
  · simp only [List.cons_append, List.mem_cons, List.mem_append, List.not_mem_nil, or_false]
    rintro (same | inside | same)
    · exact parent_ne_of_isRepositoryName legal same.symm
    · exact parent_not_mem_nameParts name inside
    · exact absurd same (by decide)
  · unfold sourcePath modulePath
    rw [moduleDirectory_of_flat flat, Path.child, Path.ofString_of_isRepositoryName legal]
    exact (Disk.beneath_append directory [group] _).symm

/-- A compiled module is put below the directory of compiled modules. -/
theorem exists_artifactPath (flat : Flat name) (directory : Path) :
    ∃ names, ".." ∉ names ++ ["__init__.pyc"] ∧
      directory.append (artifactPath name) = beneath directory (names ++ ["__init__.pyc"]) := by
  refine ⟨(nameParts name).filter fun part => part ≠ "", ?_, ?_⟩
  · rw [List.mem_append, List.mem_singleton]
    rintro (inside | same)
    · exact parent_not_mem_nameParts name inside
    · exact absurd same (by decide)
  · unfold artifactPath
    rw [moduleDirectory_of_flat flat]
    rfl

/-! ## Names of modules -/

/-- Modules of flat packages have flat names. -/
theorem flat_moduleName {package : String} (flat : Flat package) : Flat (moduleName package) := by
  unfold Flat moduleName
  rw [String.toList_ofList]
  intro slash
  rcases Segments.mem_joinWith slash with point | ⟨seg, inside, within⟩
  · exact absurd point (by decide)
  · apply flat
    rw [← Segments.joinWith_splitOnPair ':' package.toList]
    exact Segments.mem_joinWith_of_mem inside within

/-- A path of identifiers is in a package without slashes, also if the package is empty. -/
theorem flat_package {e : Element} (formed : isElementPath e.path = true) : Flat e.package := by
  unfold Flat Element.package
  rw [Segments.toList_intercalate]
  intro slash
  rcases Segments.mem_joinWith slash with colon | ⟨seg, inside, within⟩
  · exact absurd colon (by decide)
  · obtain ⟨segment, member, rfl⟩ := List.mem_map.mp inside
    obtain ⟨chars, whole, rfl⟩ := List.mem_map.mp ((List.dropLast_sublist _).subset member)
    rw [String.toList_ofList] at within
    have part := Identifier.isPart_of_mem (List.all_eq_true.mp formed chars whole) within
    exact absurd part (by decide)

/-- The names of modules of well-formed elements are flat. -/
theorem flat_of_mem_modulesOf (formed : ∀ e ∈ es, isElementPath e.path = true)
    {m : String × String} (member : m ∈ modulesOf u es) : Flat m.1 := by
  obtain ⟨package, known, rfl⟩ := List.mem_map.mp (Named.mem_of_mem_ofList member)
  obtain ⟨e, inside, rfl⟩ := mem_packages.mp known
  exact flat_moduleName (flat_package (formed e inside))

theorem flat_groupPackage (flat : Flat group) : Flat (groupPackage group) := fun slash =>
  (mem_groupPackage slash).elim (fun same => absurd same (by decide)) flat

/-- The full name of a group is flat. -/
theorem flat_groupRoot (flat : Flat group)
    (external : ∀ package, code.externalPackage = some package → Flat package) :
    Flat (groupRoot code group) := by
  obtain ⟨root, origin, shape⟩ := groupRoot_cases code group
  have flat_root : Flat root := by
    rcases origin with given | rfl
    · exact external root given
    · unfold Flat
      decide
  rw [shape]
  refine flat_append.mpr ⟨flat_append.mpr ⟨flat_root, ?_⟩, flat_groupPackage flat⟩
  unfold Flat
  decide

/-- The packages above a flat name are flat. -/
theorem flat_of_mem_ancestors {above : String} (flat : Flat name)
    (member : above ∈ ancestors name) : Flat above := by
  obtain ⟨k, -, same⟩ := List.mem_filterMap.mp member
  split at same
  · cases same
  · cases same
    unfold Flat
    rw [Segments.toList_intercalate]
    intro slash
    rcases Segments.mem_joinWith slash with point | ⟨seg, inside, within⟩
    · exact absurd point (by decide)
    · obtain ⟨part, taken, rfl⟩ := List.mem_map.mp inside
      exact flat_of_mem_nameParts flat (List.mem_of_mem_take taken) within

/-- The names of compiled modules hold no slash if those of groups, modules and the external package
hold none. -/
theorem flat_of_compile [Compiler] {modules : List CompiledModule}
    (compiled : compile code = .ok modules)
    (flat : ∀ group ∈ code.groups, Flat group.1 ∧ ∀ m ∈ group.2, Flat m.1)
    (external : ∀ package, code.externalPackage = some package → Flat package) :
    ∀ m ∈ modules, Flat m.name := by
  have each : ∀ job ∈ jobs code, Flat job.name := by
    intro job member
    obtain ⟨group, known, m, own, rfl⟩ := mem_jobs.mp member
    obtain ⟨group_flat, modules_flat⟩ := flat group known
    refine flat_append.mpr ⟨flat_append.mpr ⟨flat_groupRoot group_flat external, ?_⟩,
      modules_flat m own⟩
    unfold Flat
    decide
  intro m member
  obtain ⟨job, inside, same | above⟩ := (mem_names_of_compile compiled).2 m member
  · exact same ▸ each job inside
  · exact flat_of_mem_ancestors (each job inside) above

/-- An accepted external package holds no slash. -/
theorem flat_of_isExternalPackage {package : String}
    (accepted : Settings.isExternalPackage package = true) : Flat package := by
  have free {cs : List Char} (dotted : isDottedName cs = true) : '/' ∉ cs := by
    intro slash
    obtain ⟨seg, inside, within⟩ := Segments.exists_mem_splitOn slash (by decide : '/' ≠ '.')
    have part := Identifier.isPart_of_mem (List.all_eq_true.mp dotted seg inside) within
    exact absurd part (by decide)
  unfold Settings.isExternalPackage at accepted
  dsimp only at accepted
  split at accepted
  · next line =>
    intro slash
    have kept := free accepted
    have last := List.dropLast_append_getLast? _ line
    rw [← last, List.mem_append, List.mem_singleton] at slash
    exact slash.elim kept (by decide)
  · exact free accepted

end Code

end ModelForge
