import ModelForge.Proofs.Code.Apart
import ModelForge.Proofs.Commuting

/-! # Output files keep their contents

A run writes metadata, then the generated modules and then the compiled ones. All these files are at
different places, so none is written over by a later one: after a run each generated and each
compiled module is read back from its own file, and no file of the run is in the way of another one
(`ModelForge.Pipeline.outputs_kept`).
-/

namespace ModelForge

open Disk (WroteFiles)

open Run (RunsTo)

namespace Code

variable {code : Generation} {plan : Plan} {g : Graph} {modules : List CompiledModule} {d d' : Disk}
  {classes directory p : Path} {external : ExternalPackage}

/-! ## Files of modules -/

/-- The files of generated modules below a directory. -/
def sourceFiles (code : Generation) (directory : Path) : List (Path × Octets) :=
  code.groups.flatMap fun group =>
    group.2.map fun x => (sourcePath directory group.1 x.1, Utf8.encode x.2)

/-- The files of compiled modules below a directory. -/
def artifactFiles (modules : List CompiledModule) (classes : Path) : List (Path × Octets) :=
  modules.map fun m => (classes.append (artifactPath m.name), CompiledModule.artifact m)

/-- The source files are those of the generated modules. -/
theorem mem_sourceFiles {file : Path × Octets} : file ∈ sourceFiles code directory ↔
    ∃ group ∈ code.groups, ∃ x ∈ group.2,
      (sourcePath directory group.1 x.1, Utf8.encode x.2) = file := by
  unfold sourceFiles
  simp only [List.mem_flatMap, List.mem_map]

/-- The compiled files are those of the compiled modules. -/
theorem mem_artifactFiles {file : Path × Octets} : file ∈ artifactFiles modules classes ↔
    ∃ m ∈ modules, (classes.append (artifactPath m.name), CompiledModule.artifact m) = file :=
  List.mem_map

/-- A source file is an output file. -/
theorem outputFile_of_sourceFiles {file : Path × Octets}
    (member : file ∈ sourceFiles code directory) (plan : Plan)
    (modules : List CompiledModule) : OutputFile code plan modules directory .source file.1 := by
  obtain ⟨group, known, x, own, rfl⟩ := mem_sourceFiles.mp member
  exact .source known own

/-- A compiled module is an output file. -/
theorem outputFile_of_artifactFiles {file : Path × Octets}
    (member : file ∈ artifactFiles modules classes) (code : Generation) (plan : Plan) :
    OutputFile code plan modules classes .artifact file.1 := by
  obtain ⟨m, inside, rfl⟩ := mem_artifactFiles.mp member
  exact .artifact inside

/-- Writing a source file writes that file. -/
theorem wroteFiles_of_writeSource {text : String} {written : Path}
    (leads : RunsTo (writeSource p text) d (.ok written) d') :
    WroteFiles [(p, Utf8.encode text)] d d' := by
  obtain ⟨_, d₁, done, leads⟩ := leads.bind_ok
  obtain ⟨-, rfl⟩ := leads.pure
  exact Run.wroteFiles_of_make_write done

/-- Writing generated modules writes their files. -/
theorem wroteFiles_of_writeSources {written : List Path}
    (leads : RunsTo (writeSources code directory) d (.ok written) d') :
    WroteFiles (sourceFiles code directory) d d' := by
  obtain ⟨_, d₁, each, leads⟩ := leads.bind_ok
  obtain ⟨-, rfl⟩ := leads.pure
  refine Run.wroteFiles_of_mapM (fun group _ d _ d' groups => ?_) each
  rw [← List.flatMap_pure_eq_map]
  exact Run.wroteFiles_of_mapM (fun x _ _ _ _ one => wroteFiles_of_writeSource one) groups

/-- Writing compiled modules writes their files. -/
theorem wroteFiles_of_writeModules {written : List Path}
    (leads : RunsTo (writeModules classes modules) d (.ok written) d') :
    WroteFiles (artifactFiles modules classes) d d' := by
  unfold artifactFiles
  rw [← List.flatMap_pure_eq_map]
  refine Run.wroteFiles_of_mapM (fun m _ d _ d' one => ?_) leads
  obtain ⟨_, d₁, done, one⟩ := one.bind_ok
  obtain ⟨-, rfl⟩ := one.pure
  exact Run.wroteFiles_of_replaceFile done

/-- Generating code writes the files of its modules, if there is a directory for them. -/
theorem wroteFiles_of_generateInto {directory : Option Path}
    (leads : RunsTo (generateInto g plan external directory) d (.ok code) d') :
    WroteFiles (directory.toList.flatMap (sourceFiles code)) d d' := by
  unfold generateInto at leads
  rcases leads.orThrow_bind with ⟨_, -, no, -⟩ | ⟨made, -, leads⟩
  · cases no
  cases directory with
  | none =>
    obtain ⟨-, rfl⟩ := leads.pure
    exact .refl _
  | some directory =>
    obtain ⟨written, d₁, done, leads⟩ := leads.bind_ok
    obtain ⟨same, rfl⟩ := leads.pure
    cases same
    rw [Option.toList_some, List.flatMap_singleton]
    exact wroteFiles_of_writeSources done

section Places

variable [Compiler] (proper : WellNamedCode code) (legal : ∀ u ∈ plan.units, u.Legal)
  (compiled : compile code = .ok modules)

include proper legal compiled

/-- Source files have different places. -/
theorem nodup_sourceFiles (d : Disk) (directory : Path) :
    ((sourceFiles code directory).map fun file => d.place file.1).Nodup := by
  have eq_of_place (group : String × ModuleTexts) (known : group ∈ code.groups)
      (x : String × String) (own : x ∈ group.2) (group' : String × ModuleTexts)
      (known' : group' ∈ code.groups) (x' : String × String) (own' : x' ∈ group'.2)
      (same : d.place (sourcePath directory group.1 x.1) =
        d.place (sourcePath directory group'.1 x'.1)) : group.1 = group'.1 ∧ x.1 = x'.1 := by
    have file : OutputFile code plan modules directory .source _ := .source known own
    have file' : OutputFile code plan modules directory .source _ := .source known' own'
    refine (filesApart_of_wellNamedCode proper legal compiled).sources group known x own
      group' known' x' own'
      directory ?_
    exact (file.below proper legal compiled).eq_of_place (file'.below proper legal compiled) same
  unfold sourceFiles
  simp only [List.map_flatMap, List.map_map, List.nodup_flatMap]
  refine ⟨fun group known => ?_, ?_⟩
  · have once := proper.nodup_modules group known
    refine (List.Nodup.of_map _ once).map_on fun x own x' own' same => ?_
    exact List.inj_on_of_nodup_map once own own'
      (eq_of_place group known x own group known x' own' same).2
  · refine (List.pairwise_map.mp proper.nodup_groups).imp_of_mem fun known known' differ => ?_
    intro l inside inside'
    obtain ⟨x, own, rfl⟩ := List.mem_map.mp inside
    obtain ⟨x', own', same⟩ := List.mem_map.mp inside'
    exact differ (eq_of_place _ known x own _ known' x' own' same.symm).1

/-- Compiled modules have different places. -/
theorem nodup_artifactFiles (d : Disk) (classes : Path) :
    ((artifactFiles modules classes).map fun file => d.place file.1).Nodup := by
  have once := Keyed.nodup_keys (compiled_of_compile compiled).ascending
  unfold artifactFiles
  rw [List.map_map]
  refine (List.Nodup.of_map _ once).map_on fun m member m' member' same => ?_
  have file : OutputFile code plan modules classes .artifact _ := .artifact member
  have file' : OutputFile code plan modules classes .artifact _ := .artifact member'
  refine (filesApart_of_wellNamedCode proper legal compiled).artifacts m member m' member'
    classes ?_
  exact (file.below proper legal compiled).eq_of_place (file'.below proper legal compiled) same

end Places

end Code

/-! ## Runs -/

namespace Pipeline

open Code (Content OutputFile WellNamedCode sourceFiles artifactFiles)

variable {s : Settings} {places : Discovery} {around : Surroundings} {d d₁ d' : Disk}
  {summary : Summary} {code : Generation} {plan : Plan} {modules : List CompiledModule}
  {p root : Path}

/-- The directory that a run puts files of some content below, if it writes them. -/
def directoryOf (s : Settings) : Content → Option Path
  | .artifact => if s.preventCompilation then none else some s.layout.classes
  | .source => s.layout.sources
  | .metadata => s.layout.metadata

theorem directoryOf_artifact_eq_some : directoryOf s .artifact = some root ↔
    s.preventCompilation = false ∧ s.layout.classes = root := by
  unfold directoryOf
  cases s.preventCompilation <;> simp

/-- The files that a run writes for the modules of its code. -/
def moduleFiles (s : Settings) (code : Generation) (modules : List CompiledModule) :
    List (Path × Octets) :=
  s.layout.sources.toList.flatMap (sourceFiles code) ++
    if s.preventCompilation then [] else artifactFiles modules s.layout.classes

/-- Every module is read back from its own file, and no file of a run is in the way of another
one. -/
structure OutputsReadBack (s : Settings) (code : Generation) (plan : Plan)
    (modules : List CompiledModule) (d : Disk) : Prop where
  artifacts : s.preventCompilation = false → ∀ m ∈ modules,
    d.read (s.layout.classes.append (Code.artifactPath m.name)) =
      .ok (Code.CompiledModule.artifact m)
  sources : ∀ directory, s.layout.sources = some directory → ∀ group ∈ code.groups,
    ∀ x ∈ group.2, d.read (Code.sourcePath directory group.1 x.1) = .ok (Utf8.encode x.2)
  apart : ∀ content content' root root' p q, directoryOf s content = some root →
    directoryOf s content' = some root' → OutputFile code plan modules root content p →
    OutputFile code plan modules root' content' q → p ≠ q → ¬p.Meets q

/-- What a run with a summary has written: metadata first, and then the files of its modules. -/
theorem wroteFiles_of_ended [SetOrder] [Code.Compiler]
    (ended : EndedWith s places around d summary d') (generation : summary.generation = some code)
    (compiled : Code.compile code = .ok modules) :
    ∃ g plan d₁, Published s places around d g plan d₁ ∧
      Plan.build s.type summary.selected = .ok plan ∧
      WroteFiles (moduleFiles s code modules) d₁ d' := by
  obtain ⟨g, plan, d₂, ⟨d₁, published, generates⟩, built, made, compiles⟩ := ended
  cases made.symm.trans generation
  refine ⟨g, plan, d₁, published, built, (Code.wroteFiles_of_generateInto generates).trans ?_⟩
  unfold compile at compiles
  split at compiles
  · next prevented =>
    obtain ⟨_, compiles⟩ := compiles.after (leavesDisk_info _)
    obtain ⟨-, rfl⟩ := compiles.pure
    rw [if_pos prevented]
    exact .refl _
  · next prevented =>
    rw [if_neg prevented]
    rcases compileStep_cases compiles with ⟨_, -, no, -⟩ | ⟨modules', compiled', written⟩
    · cases no
    · cases compiled.symm.trans compiled'
      exact Code.wroteFiles_of_writeModules written

theorem source_mem_moduleFiles {directory : Path} (given : s.layout.sources = some directory)
    {file : Path × Octets} (member : file ∈ sourceFiles code directory) :
    file ∈ moduleFiles s code modules :=
  List.mem_append_left _ (List.mem_flatMap.mpr ⟨directory, Option.mem_toList.mpr given, member⟩)

theorem artifact_mem_moduleFiles (compiles : s.preventCompilation = false)
    {file : Path × Octets} (member : file ∈ artifactFiles modules s.layout.classes) :
    file ∈ moduleFiles s code modules := by
  unfold moduleFiles
  rw [compiles, if_neg Bool.false_ne_true]
  exact List.mem_append_right _ member

/-- The files of modules are source files and compiled ones. -/
theorem mem_moduleFiles {file : Path × Octets} (member : file ∈ moduleFiles s code modules) :
    (∃ directory, file ∈ sourceFiles code directory) ∨
      file ∈ artifactFiles modules s.layout.classes := by
  rcases List.mem_append.mp member with source | artifact
  · obtain ⟨directory, -, inside⟩ := List.mem_flatMap.mp source
    exact .inl ⟨directory, inside⟩
  · split at artifact
    · cases artifact
    · exact .inr artifact

section Places

variable [Code.Compiler] (proper : WellNamedCode code) (legal : ∀ u ∈ plan.units, u.Legal)
  (compiled : Code.compile code = .ok modules)

include proper legal compiled

/-- No two files of modules are at the same place. -/
theorem nodup_moduleFiles (d : Disk) (s : Settings) :
    ((moduleFiles s code modules).map fun file => d.place file.1).Nodup := by
  unfold moduleFiles
  rw [List.map_append, List.nodup_append]
  refine ⟨?_, ?_, ?_⟩
  · cases s.layout.sources with
    | none => exact List.nodup_nil
    | some directory =>
      rw [Option.toList_some, List.flatMap_singleton]
      exact Code.nodup_sourceFiles proper legal compiled d directory
  · split
    · exact List.nodup_nil
    · exact Code.nodup_artifactFiles proper legal compiled d _
  · intro l source l' artifact
    obtain ⟨file, member, rfl⟩ := List.mem_map.mp source
    obtain ⟨file', member', rfl⟩ := List.mem_map.mp artifact
    obtain ⟨directory, -, inside⟩ := List.mem_flatMap.mp member
    split at member'
    · cases member'
    · have generated := Code.outputFile_of_sourceFiles inside plan modules
      have written := Code.outputFile_of_artifactFiles member' code plan
      exact (generated.below proper legal compiled).place_ne (written.below proper legal compiled)
        (by decide) d

/-- A file of metadata is at another place than all files of modules. -/
theorem metadata_not_mem_moduleFiles (file : OutputFile code plan modules root .metadata p)
    (d : Disk) (s : Settings) :
    d.place p ∉ (moduleFiles s code modules).map fun file => d.place file.1 := by
  intro member
  obtain ⟨other, inside, same⟩ := List.mem_map.mp member
  have below := file.below proper legal compiled
  rcases mem_moduleFiles inside with ⟨directory, source⟩ | artifact
  · have generated := Code.outputFile_of_sourceFiles source plan modules
    exact below.place_ne (generated.below proper legal compiled) (by decide) d same.symm
  · have written := Code.outputFile_of_artifactFiles artifact code plan
    exact below.place_ne (written.below proper legal compiled) (by decide) d same.symm

/-- The files of a run that have been written keep their contents and are apart. -/
theorem outputsReadBack_of_wroteFiles (wrote : WroteFiles (moduleFiles s code modules) d d')
    (stored : ∀ root, s.layout.metadata = some root → ∀ p,
      OutputFile code plan modules root .metadata p → ∃ content, d.read p = .ok content) :
    OutputsReadBack s code plan modules d' := by
  have reads := wrote.reads (nodup_moduleFiles proper legal compiled d s)
  have artifacts (compiles : s.preventCompilation = false) (m : CompiledModule)
      (member : m ∈ modules) :=
    reads _ (artifact_mem_moduleFiles compiles (Code.mem_artifactFiles.mpr ⟨m, member, rfl⟩))
  have sources (directory : Path) (given : s.layout.sources = some directory)
      (group : String × ModuleTexts) (known : group ∈ code.groups) (x : String × String)
      (own : x ∈ group.2) :=
    reads _ (source_mem_moduleFiles given (Code.mem_sourceFiles.mpr ⟨group, known, x, own, rfl⟩))
  have read (content : Content) (root p : Path) (given : directoryOf s content = some root)
      (file : OutputFile code plan modules root content p) : ∃ octets, d'.read p = .ok octets := by
    cases file with
    | artifact member =>
      obtain ⟨compiles, rfl⟩ := directoryOf_artifact_eq_some.mp given
      exact ⟨_, artifacts compiles _ member⟩
    | source known own => exact ⟨_, sources root given _ known _ own⟩
    | metadata planned known =>
      have file : OutputFile code plan modules root .metadata _ := .metadata planned known
      obtain ⟨octets, before⟩ := stored root given _ file
      exact ⟨octets, wrote.read_of_read before
        (metadata_not_mem_moduleFiles proper legal compiled file d s)⟩
  refine ⟨artifacts, sources, ?_⟩
  intro content content' root root' p q given given' file file' differ
  obtain ⟨octets, here⟩ := read content root p given file
  obtain ⟨octets', there⟩ := read content' root' q given' file'
  exact Disk.not_meets_of_read here there differ

end Places

/-- All files of metadata can be read when it has been published. -/
theorem exists_read_of_published [SetOrder] {g : Graph}
    (published : Published s places around d g plan d₁) (tree : d.IsTree)
    (given : s.layout.metadata = some root) (file : OutputFile code plan modules root .metadata p) :
    ∃ octets, d₁.read p = .ok octets := by
  obtain ⟨⟨all, selected, chosen, -, built⟩, units, leads⟩ := published
  rw [given] at leads
  cases file with
  | @metadata u name planned known =>
    obtain ⟨files, -, stored⟩ := Metadata.stored_of_publish built
      (RepositorySet.nodup_of_select chosen.selects) (legal_of_chosen chosen) tree leads u planned
    obtain ⟨f, inside, rfl⟩ := List.mem_map.mp (show name ∈ files.inOrder.map Prod.fst from known)
    exact ⟨f.2, stored f inside⟩

/-- Code that is generated from source files for a selection and that compiles is put into files
that are apart: no two modules have the same file, and no file is in the way of another one, those
of metadata included, also if all share one directory. After any run that succeeds with this code,
every file of a generated or compiled module holds the content of its own module. -/
theorem outputs_kept [SetOrder] [Code.Compiler] {g : Graph} {d : Disk} {t : RepositorySet}
    {type : GenerationType} {selected : List String} {external : Code.ExternalPackage}
    (rebuilt : Graph.Rebuilt d t g) (named : ∀ name ∈ selected, isRepositoryName name = true)
    (built : Plan.build type selected = .ok plan)
    (dotted : ∀ package, external = some package → isDottedName package.toList = true)
    (generated : Code.generate g plan external = .ok code)
    (compiled : Code.compile code = .ok modules) :
    Code.FilesApart code plan modules ∧
      ∀ s places around w summary w', w.disk.IsTree → s.type = type →
        Run.perform (run s places around) w = (.ok summary, w') →
        summary.selected = selected → summary.generation = some code →
        OutputsReadBack s code plan modules w'.disk := by
  have same := eq_of_generate generated
  subst same
  have proper := Code.wellNamedCode_ofPlan rebuilt named built dotted
  have legal := Plan.legal_of_build built named
  refine ⟨Code.filesApart_of_wellNamedCode proper legal compiled, ?_⟩
  rintro s places around w summary w' tree rfl ran rfl generation
  have ended := ended_of_generation (Run.runsTo_of_perform ran) generation
  obtain ⟨g', plan', d₁, published, built', wrote⟩ := wroteFiles_of_ended ended generation compiled
  cases built.symm.trans built'
  refine outputsReadBack_of_wroteFiles proper legal compiled wrote fun root given p file => ?_
  exact exists_read_of_published published tree given file

end Pipeline

/-! ## A run that writes modules -/

open Step (Commutes commutes_pure)

/-- A world with the same disk and nothing in the log. -/
def World.silenced (w : World) : World := ⟨w.disk, .empty⟩

namespace Run

variable {α : Type} {x : Run α} {result : Except Failure α} {d d' : Disk}

/-- Actions on files do not depend on the log. -/
theorem commutes_silenced (action : Files.Action α) :
    Commutes World.silenced (files action) := by
  intro w
  rw [run_files, run_files]
  rfl

/-- What a step leads to that does not look at the log is what it does with an empty one. -/
theorem perform_of_runsTo (commutes : Commutes World.silenced x) (leads : RunsTo x d result d') :
    perform x ⟨d, .empty⟩ = (result, ⟨d', .empty⟩) := by
  obtain ⟨l, l', ran⟩ := leads
  exact commutes.run ran

end Run

namespace Code

variable {g : Graph} {plan : Plan} {external : ExternalPackage} {code : Generation}
  {directory : Path} {d d' : Disk}

/-- Generating code into a directory fails or succeeds as writing its modules does. -/
theorem writeSources_of_generateInto {result : Except Failure Generation}
    (generates : generate g plan external = .ok code)
    (leads : RunsTo (generateInto g plan external (some directory)) d result d') :
    ∃ written, RunsTo (writeSources code directory) d written d' ∧
      result = written.map fun _ => code := by
  rcases leads.orThrow_bind with ⟨f, no, -⟩ | ⟨made, same, leads⟩
  · cases generates.symm.trans no
  cases generates.symm.trans same
  rcases leads.bind with ⟨f, rfl, fails⟩ | ⟨files, d₁, written, leads⟩
  · exact ⟨_, fails, rfl⟩
  · obtain ⟨rfl, rfl⟩ := leads.pure
    exact ⟨_, written, rfl⟩

theorem commutes_silenced_writeSources (code : Generation) (directory : Path) :
    Commutes World.silenced (writeSources code directory) := by
  refine (Commutes.mapM fun group _ => Commutes.mapM fun x _ => ?_).bind fun _ => commutes_pure _
  exact (Run.commutes_silenced _).bind fun _ => commutes_pure _

theorem commutes_silenced_writeModules (classes : Path) (modules : List CompiledModule) :
    Commutes World.silenced (writeModules classes modules) :=
  .mapM fun _ _ => (Run.commutes_silenced _).bind fun _ => commutes_pure _

end Code

namespace Sample

open Pipeline

attribute [local instance] SetOrder.asWritten Code.Compiler.ofFaults

/-- Settings that take the repository and write its generated and its compiled modules. -/
def writingSettings : Settings := { reservedSettings with metadata := false, sources := true }

/-- The plan for the repository. -/
def reservedPlan : Plan := ⟨.modular, [Plan.unitOf "class"]⟩

/-- The code of the repository. -/
def reservedCode : Generation := Code.ofPlan reservedGraph reservedPlan none

/-- The compiled modules of the sample. -/
def reservedModules : List CompiledModule :=
  ["pure_generated", "pure_generated.class"].map Code.packageModule ++
    (Code.jobs reservedCode).map Code.Job.compiled

/-- The sample's code compiles. -/
theorem compile_reserved : Code.compile reservedCode = .ok reservedModules := by
  have computed : (Code.compile reservedCode).toOption.isSome = true := by decide +kernel
  obtain ⟨modules, compiled⟩ := Result.exists_of_isSome computed
  have added : Code.addedPackages ((Code.jobs reservedCode).map Code.Job.name) =
      ["pure_generated", "pure_generated.class"] := by decide +kernel
  have ascending : Keyed.Ascending CompiledModule.name reservedModules := by
    have names : (reservedModules.map CompiledModule.name).Pairwise (· < ·) := by decide +kernel
    exact List.pairwise_map.mp names
  rw [compiled, (Code.eq_sortedModules_of_compile compiled).2, Code.sortedModules, added,
    Keyed.mergeSort_of_perm ascending List.perm_append_comm]

/-- The disk after the generated module is written. -/
def sourcesDisk : Disk :=
  (Run.perform (Code.writeSources reservedCode (.ofParts ["target", "generated-sources"]))
    ⟨reservedDisk, .empty⟩).2.disk

section Writing

variable {g : Graph} {plan : Plan} {d d' : Disk} {all : RepositorySet} {selected : List String}

/-- The sample's run chooses its one repository. -/
theorem chosen_writing
    (choice : Chosen writingSettings ⟨false, false⟩ bare reservedDisk all selected) :
    all = reservedRepositories ∧ selected = ["class"] := by
  have selects : reservedRepositories.select [] [] = .ok ["class"] := rfl
  cases discover_reserved.symm.trans choice.found
  cases selects.symm.trans choice.selects
  exact ⟨rfl, rfl⟩

/-- From it the plan and the code of the sample follow. -/
theorem planned_writing
    (planned : Planned writingSettings ⟨false, false⟩ bare reservedDisk g plan) :
    g.isReady = true ∧ plan = reservedPlan ∧
      Code.ofPlan g plan writingSettings.external = reservedCode := by
  obtain ⟨all, selected, choice, ⟨l, prepared⟩, built⟩ := planned
  obtain ⟨rfl, rfl⟩ := chosen_writing choice
  cases built
  have sub := RepositorySet.subset_names reservedRepositories
  have rebuilt := (Graph.rebuilt_of_run_none sub (Prod.ext prepared rfl)).1
  have elements : g.elements = reservedGraph.elements :=
    List.perm_singleton.mp (rebuilt.elements.trans rebuilt_reserved.elements.symm)
  have groups (name : Option String) : g.elementsOf name = reservedGraph.elementsOf name := by
    unfold Graph.elementsOf
    rw [elements]
  refine ⟨rebuilt.isReady, rfl, ?_⟩
  unfold reservedCode Code.ofPlan
  simp only [groups]
  rfl

/-- Without a fault the sources are written. -/
theorem generated_writing {result : Except Failure Generation}
    (published : Published writingSettings ⟨false, false⟩ bare reservedDisk g plan d)
    (leads : Run.RunsTo (Code.generateInto g plan writingSettings.external
      writingSettings.layout.sources) d result d') :
    result = .ok reservedCode ∧ d' = sourcesDisk := by
  obtain ⟨planned, units, publishes⟩ := published
  obtain ⟨-, rfl⟩ := publishes.pure
  obtain ⟨ready, rfl, same⟩ := planned_writing planned
  have generates : Code.generate g reservedPlan writingSettings.external = .ok reservedCode := by
    rw [Code.generate, if_pos ready, same]
  have directory : writingSettings.layout.sources =
      some (.ofParts ["target", "generated-sources"]) := rfl
  rw [directory] at leads
  obtain ⟨written, writes, rfl⟩ := Code.writeSources_of_generateInto generates leads
  have ran := Run.perform_of_runsTo (Code.commutes_silenced_writeSources _ _) writes
  have succeeds : (Run.perform (Code.writeSources reservedCode
      (.ofParts ["target", "generated-sources"])) ⟨reservedDisk, .empty⟩).1.toOption.isSome =
        true := by decide +kernel
  unfold sourcesDisk
  rw [ran] at succeeds ⊢
  cases written with
  | error f => cases succeeds
  | ok files => exact ⟨rfl, rfl⟩

/-- No stage fails on the repository. -/
theorem not_failed_writing {stage : Stage} {f : Failure} :
    ¬Failed writingSettings ⟨false, false⟩ bare reservedDisk stage f d' := by
  have sub := RepositorySet.subset_names reservedRepositories
  have selects : reservedRepositories.select [] [] = .ok ["class"] := rfl
  intro failed
  cases failed with
  | discovery fails => cases discover_reserved.symm.trans fails
  | selection found fails =>
    cases discover_reserved.symm.trans found
    cases selects.symm.trans fails
  | initialization choice fails =>
    obtain ⟨rfl, rfl⟩ := chosen_writing choice
    obtain ⟨l, fails⟩ := fails
    obtain ⟨g, miss, l', done⟩ := (Graph.run_none_iff sub l).mpr rebuilt_reserved.wellFormed
    cases (congrArg Prod.fst done).symm.trans fails
  | planning choice _ fails =>
    obtain ⟨rfl, rfl⟩ := chosen_writing choice
    cases fails
  | metadata planned fails => cases fails.pure.1
  | generation published fails => cases (generated_writing published fails).1
  | compilation generated _ fails =>
    obtain ⟨d₁, published, -⟩ := generated
    rw [(planned_writing published.1).2.2, compile_reserved] at fails
    cases fails
  | writing generated _ compiled fails =>
    obtain ⟨d₁, published, leads⟩ := generated
    rw [(planned_writing published.1).2.2, compile_reserved] at compiled
    cases compiled
    rw [(generated_writing published leads).2] at fails
    have succeeds : (Run.perform (Code.writeModules writingSettings.classes reservedModules)
        ⟨sourcesDisk, .empty⟩).1.toOption.isSome = true := by decide +kernel
    rw [Run.perform_of_runsTo (Code.commutes_silenced_writeModules _ _) fails] at succeeds
    cases succeeds

end Writing

end Sample

namespace Pipeline

open Sample

attribute [local instance] SetOrder.asWritten Code.Compiler.ofFaults in
/-- The run on the repository succeeds, and each of its modules is read back. -/
theorem outputs_kept_sample :
    Graph.Rebuilt reservedDisk reservedRepositories reservedGraph ∧
    Code.generate reservedGraph reservedPlan none = .ok reservedCode ∧
    Code.compile reservedCode = .ok reservedModules ∧
    Code.FilesApart reservedCode reservedPlan reservedModules ∧
    ∃ summary w', Run.perform (run writingSettings ⟨false, false⟩ bare) ⟨reservedDisk, .empty⟩ =
        (.ok summary, w') ∧ summary.generation = some reservedCode ∧
      OutputsReadBack writingSettings reservedCode reservedPlan reservedModules w'.disk := by
  have built : Plan.build .modular ["class"] = .ok reservedPlan := rfl
  have named : ∀ name ∈ ["class"], isRepositoryName name = true := by decide
  have dotted : ∀ package, (none : Code.ExternalPackage) = some package →
      isDottedName package.toList = true := fun _ no => nomatch no
  have generated : Code.generate reservedGraph reservedPlan none = .ok reservedCode := rfl
  obtain ⟨apart, kept⟩ :=
    outputs_kept rebuilt_reserved named built dotted generated compile_reserved
  refine ⟨rebuilt_reserved, generated, compile_reserved, apart, ?_⟩
  rcases outcome : Run.perform (run writingSettings ⟨false, false⟩ bare) ⟨reservedDisk, .empty⟩
    with ⟨result, w'⟩
  rcases run_ends rfl (Run.runsTo_of_perform outcome) with
    ⟨stage, f, time, -, failed⟩ | ⟨summary, rfl, ended⟩
  · exact absurd failed not_failed_writing
  obtain ⟨g, plan, d₁, ⟨d₂, published, -⟩, built', generation, -⟩ := ended
  obtain ⟨-, rfl, same⟩ := planned_writing published.1
  rw [same] at generation
  have selected : summary.selected = ["class"] := by
    have units : reservedPlan.units = summary.selected.map Plan.unitOf :=
      Plan.units_of_build built'
    have names := congrArg (List.map OutputUnit.name) units
    rw [List.map_map] at names
    exact (names.trans (List.map_id _)).symm
  have tree : Disk.IsTree reservedDisk := Disk.isTree_of_entries (by decide)
  exact ⟨summary, w', rfl, generation, kept writingSettings ⟨false, false⟩ bare
    ⟨reservedDisk, .empty⟩ summary w' tree rfl outcome selected generation⟩

end Pipeline

end ModelForge
