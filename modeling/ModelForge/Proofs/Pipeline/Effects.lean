import ModelForge.Proofs.Metadata.Writing
import ModelForge.Proofs.Pipeline.Stages

/-! # What a run changes

Only three stages write files: the files of metadata units, of generated modules and of compiled
modules, which all have names of their own (`ModelForge.Pipeline.StageOutput`). A run that ends at a
stage has changed at most the files of that stage and of those before it
(`ModelForge.Pipeline.run_effects`), so a stage that fails keeps everything back that comes after
it.
-/

namespace ModelForge

namespace Pipeline

open Disk (inside ChangedOnlyAt)

open Files (Location)

open Run (RunsTo KeepsToPlaces)

/-! ## The output of a run -/

section StageOutput

variable (s : Settings)

/-- The files that a stage writes. -/
inductive StageOutput [Code.Compiler] (g : Graph) (plan : Plan) : Stage → Path → Prop where
  | unit {directory : Path} {u : OutputUnit} {name : String}
      (destination : s.layout.metadata = some directory) (planned : u ∈ plan.units)
      (file : name ∈ Metadata.fileNames) :
      StageOutput g plan .metadata (inside (Metadata.unitDirectory directory u) name)
  | source {directory : Path} {group name text : String} {modules : ModuleTexts}
      (destination : s.layout.sources = some directory)
      (grouped : (group, modules) ∈ (Code.ofPlan g plan s.external).groups)
      (generated : (name, text) ∈ modules) :
      StageOutput g plan .generation (Code.sourcePath directory group name)
  | artifact {modules : List CompiledModule} {m : CompiledModule}
      (compiles : s.preventCompilation = false)
      (compiled : Code.compile (Code.ofPlan g plan s.external) = .ok modules)
      (member : m ∈ modules) :
      StageOutput g plan .writing (s.classes.append (Code.artifactPath m.name))

/-- The directories that a stage makes where they are missing. -/
inductive StageDirectory [Code.Compiler] (g : Graph) (plan : Plan) : Stage → Path → Prop where
  | staging {directory : Path} (destination : s.layout.metadata = some directory) :
      StageDirectory g plan .metadata directory
  | parent {stage : Stage} {p : Path} (output : StageOutput s g plan stage p) :
      StageDirectory g plan stage p.parent

variable (places : Discovery) (around : Surroundings) (d : Disk) (last : Stage)

/-- The places of the files that a run writes up to a stage. -/
def OutputPlace [Code.Compiler] [SetOrder] (l : Location) : Prop :=
  ∃ g plan stage p, Planned s places around d g plan ∧ StageOutput s g plan stage p ∧
    stage.rank ≤ last.rank ∧ l = d.place p

/-- The places of the directories that a run makes up to a stage. -/
def StageDirectoryPlace [Code.Compiler] [SetOrder] (l : Location) : Prop :=
  ∃ g plan stage p, Planned s places around d g plan ∧ StageDirectory s g plan stage p ∧
    stage.rank ≤ last.rank ∧ d.Way p l

/-- At most the output up to a stage has changed, and directories that were missing for it. -/
abbrev ChangesUpTo [Code.Compiler] [SetOrder] (d' : Disk) : Prop :=
  ChangedOnlyAt (StageDirectoryPlace s places around d last) (OutputPlace s places around d last)
    d d'

end StageOutput

/-- The files at some paths are as they were, and no new ones stand there. -/
def Untouched (paths : Path → Prop) (d d' : Disk) : Prop :=
  ∀ p, paths p → ∀ content,
    d'.entry? (d.place p) = some (.file content) ↔ d.entry? (d.place p) = some (.file content)

/-- The paths of generated modules below any directory. -/
def IsSource (p : Path) : Prop := ∃ directory group name, p = Code.sourcePath directory group name

/-- The paths of compiled modules below any directory. -/
def IsArtifact (p : Path) : Prop :=
  ∃ (directory : Path) (name : String), p = directory.append (Code.artifactPath name)

/-- What a run has changed that began no stage after a given one. -/
structure Effects [Code.Compiler] [SetOrder] (s : Settings) (places : Discovery)
    (around : Surroundings) (d : Disk) (last : Stage) (d' : Disk) : Prop where
  /-- Nothing is written before metadata is. -/
  unchanged : last.rank < Stage.metadata.rank → d' = d
  sources : last.rank < Stage.generation.rank → Untouched IsSource d d'
  artifacts : last.rank < Stage.writing.rank ∨ s.preventCompilation = true →
    Untouched IsArtifact d d'
  reaches : ChangesUpTo s places around d last d'
  /-- The file of the cache stays as it is, unless it lies in the way of the output. -/
  cache : Untouched (fun p : Path => s.cache = some p ∧
    ¬OutputPlace s places around d last (d.place p)) d d'

variable {s : Settings} {places : Discovery} {around : Surroundings} {d d₁ d' : Disk} {g : Graph}
  {plan : Plan} {last later : Stage} {l : Location} {p directory : Path} {w : World}

theorem parent_inside (directory : Path) (name : String) :
    (inside directory name).parent = directory := by
  change (⟨directory.root, (directory.parts ++ [name]).dropLast⟩ : Path) = directory
  rw [List.dropLast_concat]

theorem append_inside (p directory : Path) (name : String) :
    p.append (inside directory name) = inside (p.append directory) name := by
  change (if directory.isAbsolute = true then inside directory name
    else ⟨p.root, p.parts ++ (directory.parts ++ [name])⟩) = _
  unfold Path.append
  split
  · rfl
  · rw [← List.append_assoc]
    rfl

/-- Source files have a name of their own. -/
theorem place_of_isSource (source : IsSource p) (d : Disk) :
    ∃ above, d.place p = above ++ ["__init__.py"] := by
  obtain ⟨directory, group, name, rfl⟩ := source
  have same : Code.sourcePath directory group name =
      inside ((directory.child group).append (Code.moduleDirectory name)) "__init__.py" :=
    append_inside _ _ _
  exact ⟨_, by rw [same, Disk.place_inside_of_ne (by decide)]⟩

/-- Compiled modules have a name of their own. -/
theorem place_of_isArtifact (artifact : IsArtifact p) (d : Disk) :
    ∃ above, d.place p = above ++ ["__init__.pyc"] := by
  obtain ⟨directory, name, rfl⟩ := artifact
  have same : directory.append (Code.artifactPath name) =
      inside (directory.append (Code.moduleDirectory name)) "__init__.pyc" :=
    append_inside _ _ _
  exact ⟨_, by rw [same, Disk.place_inside_of_ne (by decide)]⟩

theorem Generated.planned [SetOrder] (generated : Generated s places around d g plan d') :
    Planned s places around d g plan := by
  obtain ⟨d₁, published, -⟩ := generated
  exact published.1

variable [Code.Compiler] [SetOrder]

/-- Places of outputs stay so in later stages. -/
theorem OutputPlace.mono (place : OutputPlace s places around d last l)
    (before : last.rank ≤ later.rank) : OutputPlace s places around d later l := by
  obtain ⟨g, plan, stage, p, planned, output, reached, same⟩ := place
  exact ⟨g, plan, stage, p, planned, output, reached.trans before, same⟩

/-- The directories a stage may make may also be made in later stages. -/
theorem StageDirectoryPlace.mono (place : StageDirectoryPlace s places around d last l)
    (before : last.rank ≤ later.rank) : StageDirectoryPlace s places around d later l := by
  obtain ⟨g, plan, stage, p, planned, room, reached, way⟩ := place
  exact ⟨g, plan, stage, p, planned, room, reached.trans before, way⟩

/-! ## Names of files -/

/-- The name of a file of the output tells which stage wrote it. -/
theorem OutputPlace.name_cases {above : Location} {name : String}
    (place : OutputPlace s places around d last (above ++ [name])) :
    name ∈ Metadata.fileNames ∨
      (name = "__init__.py" ∧ Stage.generation.rank ≤ last.rank) ∨
      (name = "__init__.pyc" ∧ Stage.writing.rank ≤ last.rank ∧ s.preventCompilation = false) := by
  obtain ⟨g, plan, stage, p, -, output, reached, same⟩ := place
  have named {base : Location} {own : String} (led : d.place p = base ++ [own]) : name = own := by
    rw [led] at same
    exact (List.cons.inj (List.append_inj' same rfl).2).1
  cases output with
  | @unit directory u own destination planned file =>
    rw [named (Disk.place_inside_of_ne (Metadata.ne_parent_of_fileName file))]
    exact .inl file
  | @source directory group own text modules destination grouped generated =>
    obtain ⟨base, led⟩ := place_of_isSource ⟨directory, group, own, rfl⟩ d
    exact .inr (.inl ⟨named led, reached⟩)
  | @artifact modules m compiles compiled member =>
    obtain ⟨base, led⟩ := place_of_isArtifact ⟨s.classes, m.name, rfl⟩ d
    exact .inr (.inr ⟨named led, reached, compiles⟩)

/-- Before code is generated no source file is an output. -/
theorem not_outputPlace_of_isSource (early : last.rank < Stage.generation.rank)
    (source : IsSource p) : ¬OutputPlace s places around d last (d.place p) := by
  obtain ⟨above, led⟩ := place_of_isSource source d
  rw [led]
  intro place
  rcases place.name_cases with file | ⟨-, reached⟩ | ⟨no, -⟩
  · exact absurd file (by decide)
  · omega
  · exact absurd no (by decide)

/-- Before compiled modules are written, or without them, none is an output. -/
theorem not_outputPlace_of_isArtifact
    (kept_back : last.rank < Stage.writing.rank ∨ s.preventCompilation = true)
    (artifact : IsArtifact p) : ¬OutputPlace s places around d last (d.place p) := by
  obtain ⟨above, led⟩ := place_of_isArtifact artifact d
  rw [led]
  intro place
  rcases place.name_cases with file | ⟨no, -⟩ | ⟨-, reached, compiles⟩
  · exact absurd file (by decide)
  · exact absurd no (by decide)
  · rw [compiles] at kept_back
    rcases kept_back with early | no
    · omega
    · cases no

/-! ## What the stages change -/

/-- What changed up to a stage changed up to later ones. -/
theorem ChangesUpTo.mono (reaches : ChangesUpTo s places around d last d')
    (before : last.rank ≤ later.rank) : ChangesUpTo s places around d later d' :=
  ChangedOnlyAt.mono reaches (fun _ place => place.mono before) fun _ place => place.mono before

/-- Publishing changes at most the places of metadata. -/
theorem changesUpTo_publish {result : Except Failure (List Path)} (tree : d.IsTree)
    (planned : Planned s places around d g plan)
    (leads : RunsTo (publish g plan s.layout.metadata) d result d') :
    ChangesUpTo s places around d .metadata d' := by
  cases destination : s.layout.metadata with
  | none =>
    rw [destination] at leads
    obtain ⟨-, rfl⟩ := leads.pure
    exact .refl _ _ _
  | some directory =>
    rw [destination] at leads
    obtain ⟨l, l', ran⟩ := leads
    have output {u : OutputUnit} (member : u ∈ plan.units) {name : String}
        (file : name ∈ Metadata.fileNames) :
        StageOutput s g plan .metadata (inside (Metadata.unitDirectory directory u) name) :=
      .unit destination member file
    have changed : Disk.TreeChangedOnlyAt (StageDirectoryPlace s places around d .metadata)
        (OutputPlace s places around d .metadata) d
        (Run.perform (Metadata.publish g plan directory) ⟨d, l⟩).2.disk := by
      refine Metadata.treeChangedOnlyAt_publish (show (World.mk d l).disk.IsTree from tree) ?_ ?_ ?_
      · intro m way
        exact ⟨g, plan, .metadata, directory, planned, .staging destination, le_rfl, way⟩
      · intro u member m way
        refine ⟨g, plan, .metadata, _, planned, .parent (output member List.mem_cons_self), le_rfl,
          ?_⟩
        rwa [parent_inside]
      · intro u member name file
        refine ⟨g, plan, .metadata, _, planned, output member file, le_rfl, ?_⟩
        rw [Disk.place_inside_of_ne (Metadata.ne_parent_of_fileName file)]
    rw [show Run.perform (Metadata.publish g plan directory) ⟨d, l⟩ = _ from ran] at changed
    exact changed.within

/-- Directories on the way of an output may be made. -/
theorem Planned.room (planned : Planned s places around d g plan)
    (output : StageOutput s g plan last p) (way : d.Way p.parent l) :
    StageDirectoryPlace s places around d last l :=
  ⟨g, plan, last, p.parent, planned, .parent output, le_rfl, way⟩

/-- The place of an output is an output place. -/
theorem Planned.output (planned : Planned s places around d g plan)
    (output : StageOutput s g plan last p) : OutputPlace s places around d last (d.place p) :=
  ⟨g, plan, last, p, planned, output, le_rfl, rfl⟩

/-- Generating code keeps to its places. -/
theorem keepsToPlaces_generateInto (planned : Planned s places around d g plan) :
    KeepsToPlaces (StageDirectoryPlace s places around d .generation)
      (OutputPlace s places around d .generation) d
      (Code.generateInto g plan s.external s.layout.sources) := by
  unfold Code.generateInto
  refine (Run.keepsToPlaces_orThrow _).bind_of_ok fun w code w' _ generated => ?_
  rw [Run.run_orThrow] at generated
  have same := eq_of_generate (Prod.mk.inj generated).1
  subst same
  cases destination : s.layout.sources with
  | none => exact Step.preserves_pure _
  | some directory =>
    refine Step.Preserves.bind ?_ fun _ => Step.preserves_pure _
    unfold Code.writeSources
    refine (Step.Preserves.mapM fun (group, modules) grouped => ?_).bind fun _ =>
      Step.preserves_pure _
    refine Step.Preserves.mapM fun (name, text) generated => ?_
    have output : StageOutput s g plan .generation (Code.sourcePath directory group name) :=
      .source destination grouped generated
    refine (Run.keepsToPlaces_files ?_).bind fun _ => Step.preserves_pure _
    exact (Files.Action.keepsToPlaces_makeDirectories fun _ => planned.room output).bind fun _ =>
      Files.Action.keepsToPlaces_write (planned.output output) _

/-- Writing compiled modules keeps to theirs. -/
theorem keepsToPlaces_writeModules {modules : List CompiledModule}
    (planned : Planned s places around d g plan) (compiles : s.preventCompilation = false)
    (compiled : Code.compile (Code.ofPlan g plan s.external) = .ok modules) :
    KeepsToPlaces (StageDirectoryPlace s places around d .writing)
      (OutputPlace s places around d .writing) d (Code.writeModules s.classes modules) := by
  refine Step.Preserves.mapM fun m member => ?_
  have output : StageOutput s g plan .writing (s.classes.append (Code.artifactPath m.name)) :=
    .artifact compiles compiled member
  refine (Run.keepsToPlaces_files ?_).bind fun _ => Step.preserves_pure _
  exact Files.Action.keepsToPlaces_replaceFile (fun _ => planned.room output)
    (planned.output output) _

/-- Generating code changes at most the places up to generated code. -/
theorem changesUpTo_generateInto {result : Except Failure Generation} (tree : d.IsTree)
    (published : Published s places around d g plan d₁)
    (leads : RunsTo (Code.generateInto g plan s.external s.layout.sources) d₁ result d') :
    ChangesUpTo s places around d .generation d' := by
  obtain ⟨planned, units, publishes⟩ := published
  have before : ChangesUpTo s places around d .generation d₁ :=
    (changesUpTo_publish tree planned publishes).mono (by decide)
  exact leads.kept (keepsToPlaces_generateInto planned) before

/-- A run that has generated code has changed at most those. -/
theorem Generated.reaches (generated : Generated s places around d g plan d') (tree : d.IsTree) :
    ChangesUpTo s places around d .generation d' := by
  obtain ⟨d₁, published, leads⟩ := generated
  exact changesUpTo_generateInto tree published leads

/-- A run that writes modules changes at most all output places. -/
theorem changesUpTo_writeModules {modules : List CompiledModule}
    {result : Except Failure (List Path)} (tree : d.IsTree)
    (generated : Generated s places around d g plan d₁) (compiles : s.preventCompilation = false)
    (compiled : Code.compile (Code.ofPlan g plan s.external) = .ok modules)
    (leads : RunsTo (Code.writeModules s.classes modules) d₁ result d') :
    ChangesUpTo s places around d .writing d' := by
  have before : ChangesUpTo s places around d .writing d₁ :=
    (generated.reaches tree).mono (by decide)
  exact leads.kept (keepsToPlaces_writeModules generated.planned compiles compiled) before

/-- A run that completes changes at most all output places. -/
theorem Completed.reaches (completed : Completed s places around d d') (tree : d.IsTree) :
    ChangesUpTo s places around d .writing d' := by
  cases completed with
  | uncompiled generated prevented => exact (generated.reaches tree).mono (by decide)
  | compiled generated compiles compiled written =>
    exact changesUpTo_writeModules tree generated compiles compiled written

/-- A failed run has changed at most the places up to its stage. -/
theorem Failed.reaches {f : Failure} (failed : Failed s places around d last f d')
    (tree : d.IsTree) : ChangesUpTo s places around d last d' := by
  cases failed with
  | discovery fails => exact .refl _ _ _
  | selection found fails => exact .refl _ _ _
  | initialization chosen fails => exact .refl _ _ _
  | planning chosen prepared fails => exact .refl _ _ _
  | metadata planned fails => exact changesUpTo_publish tree planned fails
  | generation published fails => exact changesUpTo_generateInto tree published fails
  | compilation generated compiles fails => exact (generated.reaches tree).mono (by decide)
  | writing generated compiles compiled fails =>
    exact changesUpTo_writeModules tree generated compiles compiled fails

/-- A run that fails before metadata are published has changed nothing. -/
theorem Failed.unchanged {f : Failure} (failed : Failed s places around d last f d')
    (early : last.rank < Stage.metadata.rank) : d' = d := by
  cases failed with
  | discovery fails => rfl
  | selection found fails => rfl
  | initialization chosen fails => rfl
  | planning chosen prepared fails => rfl
  | metadata planned fails => exact absurd early (by decide)
  | generation published fails => exact absurd early (by decide)
  | compilation generated compiles fails => exact absurd early (by decide)
  | writing generated compiles compiled fails => exact absurd early (by decide)

/-! ## What a run changes -/

/-- From the places follow the effects on files by their kinds. -/
theorem ChangesUpTo.effects (reaches : ChangesUpTo s places around d last d')
    (unchanged : last.rank < Stage.metadata.rank → d' = d) :
    Effects s places around d last d' where
  unchanged := unchanged
  sources early _ source _ :=
    ChangedOnlyAt.file_iff reaches (not_outputPlace_of_isSource early source)
  artifacts kept_back _ artifact _ :=
    ChangedOnlyAt.file_iff reaches (not_outputPlace_of_isArtifact kept_back artifact)
  reaches := reaches
  cache _ elsewhere _ := ChangedOnlyAt.file_iff reaches elsewhere.2

/-- A run that is to do nothing leaves the disk alone. Any other run gives a summary, or it fails
with a failure of the pipeline that the failure of a stage led to; then it has changed at most the
output of that stage and of those before it. -/
theorem run_effects (s : Settings) (places : Discovery) (around : Surroundings)
    (tree : w.disk.IsTree) :
    (s.skip = true → ∃ l, Run.perform (run s places around) w = (.ok skipped, ⟨w.disk, l⟩)) ∧
    (s.skip = false →
      (∃ summary w', Run.perform (run s places around) w = (.ok summary, w') ∧
        Completed s places around w.disk w'.disk ∧
        Effects s places around w.disk .writing w'.disk) ∨
      ∃ stage f time w', Run.perform (run s places around) w =
          (.error (.pipeline "Error building compiled mode artifacts" time (some f)), w') ∧
        Failed s places around w.disk stage f w'.disk ∧
        Effects s places around w.disk stage w'.disk) := by
  refine ⟨fun skips => ?_, fun works => ?_⟩
  · unfold run
    rw [if_pos skips]
    exact ⟨_, rfl⟩
  · rcases outcome : Run.perform (run s places around) w with ⟨result, w'⟩
    rcases run_cases works (Run.runsTo_of_perform outcome) with
      ⟨stage, f, time, rfl, failed⟩ | ⟨⟨summary, rfl⟩, completed⟩
    · exact .inr ⟨stage, f, time, w', rfl, failed, (failed.reaches tree).effects failed.unchanged⟩
    · refine .inl ⟨summary, w', rfl, completed, (completed.reaches tree).effects fun early => ?_⟩
      exact absurd early (by decide)

end Pipeline

namespace Sample

/-- A disk with nothing but the file of a cache. -/
def cacheDisk : Disk := ⟨[], [(["graph.json"], .file [])]⟩

/-- Settings that request a repository that is not there. -/
def unknownSettings : Settings where
  repositories := ["nope"]
  excluded := []
  extra := []
  type := .modular
  skip := false
  addExternal := false
  externalPackage := ""
  metadata := true
  singleDirectory := false
  sources := true
  test := false
  preventCompilation := false
  classes := .ofParts ["out", "classes"]
  target := .ofParts ["out"]
  cache := some (.ofParts ["graph.json"])

/-- Surroundings without entry points. -/
def around : Surroundings := ⟨.ofParts ["bundle"], [], []⟩

end Sample

namespace Pipeline

open Sample (around cacheDisk unknownSettings)

attribute [local instance] SetOrder.asWritten Code.Compiler.ofFaults in
/-- A run that requests an unknown repository fails, and the disk is as it was. -/
theorem run_unknown_sample : ∃ time l,
    Run.perform (run unknownSettings ⟨false, false⟩ around) ⟨cacheDisk, .empty⟩ =
      (.error (.pipeline "Error building compiled mode artifacts" time
        (some (.unknownRepositories ["nope"]))), ⟨cacheDisk, l⟩) := by
  have tree : (World.mk cacheDisk .empty).disk.IsTree := Disk.isTree_of_entries (by decide)
  have empty : Discovery.discover ⟨false, false⟩ around cacheDisk [] = .ok .empty := rfl
  have nothing (all : RepositorySet) (selected : List String) :
      ¬Chosen unknownSettings ⟨false, false⟩ around cacheDisk all selected := by
    rintro ⟨found, selects⟩
    cases empty.symm.trans found
    cases selects
  have unplanned (g : Graph) (plan : Plan) :
      ¬Planned unknownSettings ⟨false, false⟩ around cacheDisk g plan :=
    fun ⟨all, selected, chosen, _⟩ => nothing all selected chosen
  rcases (run_effects unknownSettings ⟨false, false⟩ around tree).2 rfl with
    ⟨summary, w', ran, completed, -⟩ | ⟨stage, f, time, ⟨d', l⟩, ran, failed, -⟩
  · cases completed with
    | uncompiled generated _ => exact absurd generated.planned (unplanned _ _)
    | compiled generated _ _ _ => exact absurd generated.planned (unplanned _ _)
  · cases failed with
    | discovery fails => cases empty.symm.trans fails
    | selection found fails =>
      cases empty.symm.trans found
      cases fails
      exact ⟨time, l, ran⟩
    | initialization chosen _ => exact absurd chosen (nothing _ _)
    | planning chosen _ _ => exact absurd chosen (nothing _ _)
    | metadata planned _ => exact absurd planned (unplanned _ _)
    | generation published _ => exact absurd published.1 (unplanned _ _)
    | compilation generated _ _ => exact absurd generated.planned (unplanned _ _)
    | writing generated _ _ _ => exact absurd generated.planned (unplanned _ _)

end Pipeline

end ModelForge
