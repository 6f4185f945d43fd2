import ModelForge.Proofs.Code.Collisions
import ModelForge.Proofs.Files.Written
import ModelForge.Proofs.Pipeline.Confinement

/-! # Output files that stay apart

Generated modules, compiled modules and metadata are put below directories under names that are made
of the names of groups, modules, packages and units. As these are identifiers and names of
repositories, they hold no point, and the name of every file holds one; so no file is put where
another one needs a directory. Names of modules are cut into parts without loss, so no two modules
are put at one path (`ModelForge.Code.filesApart_of_wellNamedCode`).
-/

namespace ModelForge

open Disk (beneath inside)

namespace Code

variable {a b name group : String} {code : Generation} {plan : Plan} {modules : List CompiledModule}
  {root root' p q : Path} {d : Disk}

/-! ## Names of identifiers -/

/-- A dotted name whose parts are identifiers. -/
def DottedIdentifier (name : String) : Prop := ∀ part ∈ nameParts name, isIdentifier part = true

/-- A name joined by a dot is dotted exactly if both parts are. -/
theorem dottedIdentifier_append :
    DottedIdentifier (a ++ "." ++ b) ↔ DottedIdentifier a ∧ DottedIdentifier b := by
  unfold DottedIdentifier
  rw [nameParts_append, List.forall_mem_append]

/-- The packages above a dotted name are dotted names. -/
theorem DottedIdentifier.of_above (identified : DottedIdentifier name) (above : Above a name) :
    DottedIdentifier a := by
  obtain ⟨rest, rfl⟩ := above
  exact (dottedIdentifier_append.mp identified).1

/-- What passes the check of dotted names is one. -/
theorem dottedIdentifier_of_isDottedName (dotted : isDottedName name.toList = true) :
    DottedIdentifier name :=
  fun _ member => isIdentifier_of_segments dotted member

theorem dottedIdentifier_generatedPackage : DottedIdentifier generatedPackage :=
  fun part member => (importable_generatedPackage part member).1

/-- Modules have dotted names. -/
theorem dottedIdentifier_moduleName (formed : isElementPath name = true) :
    DottedIdentifier (moduleName name) := by
  unfold DottedIdentifier
  rw [nameParts_moduleName formed]
  exact fun _ member => isIdentifier_of_segments formed member

/-- The package of a group has a dotted name. -/
theorem dottedIdentifier_groupPackage (legal : isRepositoryName name = true) :
    DottedIdentifier (groupPackage name) := by
  have point : '.' ∉ (groupPackage name).toList := by
    intro member
    rcases mem_groupPackage member with same | inside
    · exact absurd same (by decide)
    · exact not_mem_of_isRepositoryName legal (by decide) inside
  unfold DottedIdentifier
  rw [nameParts_of_not_mem point, List.forall_mem_singleton]
  exact isIdentifier_groupPackage legal

/-- The directory of a module has a name for each part of its name. -/
theorem moduleDirectory_of_dottedIdentifier (identified : DottedIdentifier name) :
    moduleDirectory name = .ofParts (nameParts name) := by
  have some_char : ∀ part ∈ nameParts name, part ≠ "" := by
    rintro part member rfl
    exact absurd (identified "" member) (by decide)
  have flat : Flat name := by
    intro slash
    obtain ⟨seg, inside, within⟩ := Segments.exists_mem_splitOn slash (by decide : '/' ≠ '.')
    have part := identified _ (List.mem_map_of_mem inside)
    unfold isIdentifier at part
    rw [String.toList_ofList] at part
    exact absurd (Identifier.isPart_of_mem part within) (by decide)
  rw [moduleDirectory_of_flat flat, List.filter_eq_self.mpr]
  exact fun part member => decide_eq_true (some_char part member)

/-- A compiled module stands beneath the directory, along its name. -/
theorem artifact_beneath (identified : DottedIdentifier name) (classes : Path) :
    classes.append (artifactPath name) =
      beneath classes (nameParts name ++ ["__init__.pyc"]) := by
  unfold artifactPath
  rw [moduleDirectory_of_dottedIdentifier identified]
  rfl

/-- A source file stands beneath the directory and its group, along the name of its module. -/
theorem source_beneath (legal : isRepositoryName group = true) (identified : DottedIdentifier name)
    (directory : Path) : sourcePath directory group name =
      beneath directory (group :: nameParts name ++ ["__init__.py"]) := by
  unfold sourcePath modulePath
  rw [moduleDirectory_of_dottedIdentifier identified, Path.child,
    Path.ofString_of_isRepositoryName legal]
  exact (Disk.beneath_append directory [group] _).symm

/-! ## Files of the output -/

/-- Code whose groups are named as repositories may be, each once, and whose modules, each once in
its group, and external package are named by identifiers. -/
structure WellNamedCode (code : Generation) : Prop where
  external : ∀ package, code.externalPackage = some package → DottedIdentifier package
  groups : ∀ group ∈ code.groups, isRepositoryName group.1 = true
  modules : ∀ group ∈ code.groups, ∀ x ∈ group.2, DottedIdentifier x.1
  nodup_groups : (code.groups.map Prod.fst).Nodup
  nodup_modules : ∀ group ∈ code.groups, (group.2.map Prod.fst).Nodup

/-- Code that is generated from source files is proper. -/
theorem wellNamedCode_ofPlan [SetOrder] {g : Graph} {d : Disk} {s : RepositorySet}
    {type : GenerationType} {selected : List String} {external : ExternalPackage}
    (rebuilt : Graph.Rebuilt d s g) (named : ∀ name ∈ selected, isRepositoryName name = true)
    (built : Plan.build type selected = .ok plan)
    (dotted : ∀ package, external = some package → isDottedName package.toList = true) :
    WellNamedCode (ofPlan g plan external) where
  external package given := dottedIdentifier_of_isDottedName (dotted package given)
  groups group known := by
    obtain ⟨u, member, rfl⟩ := mem_groups known
    exact (Plan.legal_of_build built named u member).name
  modules group known x own := by
    obtain ⟨u, -, rfl⟩ := mem_groups known
    obtain ⟨package, listed, rfl⟩ := List.mem_map.mp (Named.mem_of_mem_ofList own)
    obtain ⟨e, inside, rfl⟩ := mem_packages.mp listed
    exact dottedIdentifier_moduleName
      (Graph.valid_package_of_rebuilt rebuilt (Metadata.mem_elementsOf inside)).formed
  nodup_groups := by
    rw [names_groups]
    exact nodup_eraseDups _
  nodup_modules group known := by
    obtain ⟨u, -, rfl⟩ := mem_groups known
    exact nodup_modulesOf u fun e inside =>
      Graph.placed_of_rebuilt rebuilt (Metadata.mem_elementsOf inside)

/-- Compiled modules of proper code are named by identifiers, added packages too. -/
theorem WellNamedCode.dottedIdentifier [Compiler] (proper : WellNamedCode code)
    (compiled : compile code = .ok modules) :
    ∀ m ∈ modules, DottedIdentifier m.name := by
  have of_job : ∀ job ∈ jobs code, DottedIdentifier job.name := by
    intro job member
    obtain ⟨group, known, x, own, rfl⟩ := mem_jobs.mp member
    obtain ⟨top, given, shape⟩ := groupRoot_cases code group.1
    have identified : DottedIdentifier top := by
      rcases given with external | rfl
      · exact proper.external top external
      · exact dottedIdentifier_generatedPackage
    dsimp only
    rw [shape, dottedIdentifier_append, dottedIdentifier_append]
    exact ⟨⟨identified, dottedIdentifier_groupPackage (proper.groups group known)⟩,
      proper.modules group known x own⟩
  intro m member
  rcases ((compiled_of_compile compiled).members m).mp member with
    ⟨job, known, rfl⟩ | ⟨package, -, ⟨job, known, above⟩, rfl⟩
  · exact of_job job known
  · exact (of_job job known).of_above above

/-- What a file of the output holds. -/
inductive Content where
  | artifact
  | source
  | metadata
  deriving DecidableEq

/-- The names of files of the output. -/
def Content.fileNames : Content → List String
  | .artifact => ["__init__.pyc"]
  | .source => ["__init__.py"]
  | .metadata => Metadata.fileNames

variable {content content' : Content}

/-- The files of compiled and generated modules and of the metadata of units below a directory. -/
inductive OutputFile (code : Generation) (plan : Plan) (modules : List CompiledModule)
    (root : Path) : Content → Path → Prop where
  | artifact {m : CompiledModule} (member : m ∈ modules) :
      OutputFile code plan modules root .artifact (root.append (artifactPath m.name))
  | source {group : String × ModuleTexts} {x : String × String} (known : group ∈ code.groups)
      (own : x ∈ group.2) : OutputFile code plan modules root .source (sourcePath root group.1 x.1)
  | metadata {u : OutputUnit} {file : String} (planned : u ∈ plan.units)
      (known : file ∈ Metadata.fileNames) :
      OutputFile code plan modules root .metadata (inside (Metadata.unitDirectory root u) file)

/-- Output files below any directories are apart: different modules have different files, and no
file is on the way to another one, unless it is on the way to the directory of the other one. -/
structure FilesApart (code : Generation) (plan : Plan) (modules : List CompiledModule) : Prop where
  artifacts : ∀ m ∈ modules, ∀ m' ∈ modules, ∀ classes : Path,
    classes.append (artifactPath m.name) = classes.append (artifactPath m'.name) → m = m'
  sources : ∀ group ∈ code.groups, ∀ x ∈ group.2, ∀ group' ∈ code.groups, ∀ x' ∈ group'.2,
    ∀ directory, sourcePath directory group.1 x.1 = sourcePath directory group'.1 x'.1 →
      group.1 = group'.1 ∧ x.1 = x'.1
  contents : ∀ root root' content content' p, OutputFile code plan modules root content p →
    OutputFile code plan modules root' content' p → content = content'
  together : ∀ root content content' p q, OutputFile code plan modules root content p →
    OutputFile code plan modules root content' q → p ≠ q → ¬p.Meets q
  between : ∀ root root' content content' p q, OutputFile code plan modules root content p →
    OutputFile code plan modules root' content' q → p ≠ q → p.OnWay q → p.OnWay root'

/-! ## Names with points and without -/

theorem point_mem_of_fileNames {file : String} (known : file ∈ content.fileNames) :
    '.' ∈ file.toList := by
  have each : ∀ file ∈ content.fileNames, '.' ∈ file.toList := by
    cases content <;> decide
  exact each file known

/-- Outputs of different kinds have different file names. -/
theorem eq_of_fileNames {file : String}
    (known : file ∈ content.fileNames) (known' : file ∈ content'.fileNames) :
    content = content' := by
  have apart : content = content' ∨ ∀ file ∈ content.fileNames, file ∉ content'.fileNames := by
    cases content <;> cases content' <;> decide
  exact apart.resolve_right fun disjoint => disjoint file known known'

/-- A path leads below a directory by names without points and then by the name of a file. -/
def Content.Below (content : Content) (root p : Path) : Prop :=
  ∃ names file, p = beneath root (names ++ [file]) ∧ (∀ name ∈ names, '.' ∉ name.toList) ∧
    file ∈ content.fileNames

theorem point_not_mem_of_legal (legal : isRepositoryName name = true) : '.' ∉ name.toList :=
  not_mem_of_isRepositoryName legal (by decide)

/-- All output files of proper code lie so below their directories. -/
theorem OutputFile.below [Compiler] (proper : WellNamedCode code)
    (legal : ∀ u ∈ plan.units, u.Legal) (compiled : compile code = .ok modules)
    (file : OutputFile code plan modules root content p) : content.Below root p := by
  cases file with
  | artifact member =>
    exact ⟨_, _, artifact_beneath (proper.dottedIdentifier compiled _ member) root,
      fun _ => not_mem_of_mem_nameParts, List.mem_singleton_self _⟩
  | source known own =>
    exact ⟨_, _, source_beneath (proper.groups _ known) (proper.modules _ known _ own) root,
      List.forall_mem_cons.mpr
        ⟨point_not_mem_of_legal (proper.groups _ known), fun _ => not_mem_of_mem_nameParts⟩,
      List.mem_singleton_self _⟩
  | @metadata u file planned known =>
    obtain ⟨names, proper, same⟩ := Metadata.exists_unitDirectory (legal u planned) root
    refine ⟨names, file, ?_, fun name member => point_not_mem_of_legal (proper name member), known⟩
    rw [same, Disk.inside_beneath]

/-- A file is on the way to another one only if it is on the way to the directory of that one. -/
theorem Content.Below.onWay (below : content.Below root p)
    (below' : content'.Below root' q) (above : p.OnWay q) (differ : p ≠ q) : p.OnWay root' := by
  obtain ⟨names, file, rfl, -, known⟩ := below
  obtain ⟨names', file', rfl, free, -⟩ := below'
  have higher : (beneath root (names ++ [file])).OnWay (beneath root' names') := by
    obtain ⟨same, parts⟩ := above
    rw [Disk.beneath_append root' names' [file']] at parts
    refine ⟨same, (List.prefix_concat_iff.mp parts).resolve_left fun whole => differ ?_⟩
    rw [Disk.beneath_append root' names' [file']]
    exact congrArg₂ Path.mk same whole
  exact Disk.onWay_of_beneath higher fun member =>
    free file member (point_mem_of_fileNames known)

/-- No file is on the way to the directory that it is below. -/
theorem Content.Below.not_onWay (below : content.Below root p) :
    ¬p.OnWay root := by
  obtain ⟨names, file, rfl, -⟩ := below
  rintro ⟨-, short⟩
  have long := short.length_le
  change (root.parts ++ (names ++ [file])).length ≤ root.parts.length at long
  simp only [List.length_append, List.length_singleton] at long
  omega

/-- Paths beneath one directory are told apart by their names. -/
theorem beneath_injective {names more : List String}
    (same : beneath root names = beneath root more) : names = more :=
  List.append_cancel_left (congrArg Path.parts same)

/-- Modules are told apart by the names along which they stand. -/
theorem eq_of_artifact_names {file : String}
    (same : nameParts a ++ [file] = nameParts b ++ [file]) : a = b :=
  nameParts_injective (List.append_cancel_right same)

/-- Source files are told apart by the names along which they stand, together with their groups. -/
theorem eq_of_source_names {group' file : String}
    (same : group :: nameParts a ++ [file] = group' :: nameParts b ++ [file]) :
    group = group' ∧ a = b := by
  obtain ⟨rfl, rest⟩ := List.cons.inj same
  exact ⟨rfl, eq_of_artifact_names rest⟩

/-- The output of proper code is apart. -/
theorem filesApart_of_wellNamedCode [Compiler] (proper : WellNamedCode code)
    (legal : ∀ u ∈ plan.units, u.Legal) (compiled : compile code = .ok modules) :
    FilesApart code plan modules where
  artifacts m member m' member' classes same := by
    have identified := proper.dottedIdentifier compiled
    rw [artifact_beneath (identified m member), artifact_beneath (identified m' member')] at same
    exact Keyed.eq_of_key_eq (compiled_of_compile compiled).ascending member member'
      (eq_of_artifact_names (beneath_injective same))
  sources group known x own group' known' x' own' directory same := by
    rw [source_beneath (proper.groups group known) (proper.modules group known x own),
      source_beneath (proper.groups group' known') (proper.modules group' known' x' own')] at same
    exact eq_of_source_names (beneath_injective same)
  contents root root' content content' p file file' := by
    obtain ⟨names, name, same, -, known⟩ := file.below proper legal compiled
    obtain ⟨names', name', same', -, known'⟩ := file'.below proper legal compiled
    have last : name = name' := by
      rw [← Disk.name_beneath root names name, ← same, same', Disk.name_beneath]
    exact eq_of_fileNames known (last ▸ known')
  together root content content' p q file file' differ := by
    have below := file.below proper legal compiled
    have below' := file'.below proper legal compiled
    rintro (above | above)
    · exact below.not_onWay (below.onWay below' above differ)
    · exact below'.not_onWay (below'.onWay below above differ.symm)
  between root root' content content' p q file file' differ above :=
    (file.below proper legal compiled).onWay (file'.below proper legal compiled) above differ

/-! ## Places of output files -/

theorem ne_parent_of_fileNames {file : String} (known : file ∈ content.fileNames) :
    file ≠ ".." := by
  have each : ∀ file ∈ content.fileNames, file ≠ ".." := by
    cases content <;> decide
  exact each file known

/-- The place of an output ends in a file name of its kind. -/
theorem Content.Below.place (below : content.Below root p) (d : Disk) :
    ∃ above, ∃ file ∈ content.fileNames, d.place p = above ++ [file] := by
  obtain ⟨names, file, rfl, -, known⟩ := below
  refine ⟨d.place (Disk.beneath root names), file, known, ?_⟩
  rw [← Disk.inside_beneath, Disk.place_inside_of_ne (ne_parent_of_fileNames known)]

/-- Files of different contents are at different places. -/
theorem Content.Below.place_ne (below : content.Below root p) (below' : content'.Below root' q)
    (differ : content ≠ content') (d : Disk) : d.place p ≠ d.place q := by
  obtain ⟨above, file, known, led⟩ := below.place d
  obtain ⟨above', file', known', led'⟩ := below'.place d
  rw [led, led']
  intro same
  have last : file = file' := (List.cons.inj (List.append_inj' same rfl).2).1
  exact differ (eq_of_fileNames known (last ▸ known'))

/-- Paths below one directory that lead to the same place are the same. -/
theorem Content.Below.eq_of_place (below : content.Below root p) (below' : content'.Below root q)
    (same : d.place p = d.place q) : p = q := by
  have plain {content : Content} {names : List String} {file : String}
      (free : ∀ name ∈ names, '.' ∉ name.toList) (known : file ∈ content.fileNames) :
      ".." ∉ names ++ [file] := by
    rw [List.mem_append, List.mem_singleton]
    rintro (inside | own)
    · exact free ".." inside (by decide)
    · exact ne_parent_of_fileNames known own.symm
  obtain ⟨names, file, rfl, free, known⟩ := below
  obtain ⟨names', file', rfl, free', known'⟩ := below'
  rw [Disk.place_beneath (plain free known), Disk.place_beneath (plain free' known')] at same
  rw [List.append_cancel_left same]

end Code

end ModelForge
