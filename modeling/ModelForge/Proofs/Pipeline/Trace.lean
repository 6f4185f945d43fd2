import ModelForge.Proofs.Event.Told
import ModelForge.Proofs.Pipeline.Reordered

/-! # The steps of a run

A run opens its steps in a fixed order, each after the one before it has finished; only the steps
of the units are inside another one, that of the metadata (`ModelForge.Pipeline.steps`). A run that
succeeds has finished all of them and told no error. A run that fails has opened the steps up to the
failure, leaves open exactly those around it (`ModelForge.Pipeline.Enclosing`), and tells its cause
last (`ModelForge.Pipeline.run_trace`).
-/

namespace ModelForge

namespace Pipeline

open Message (Indented)

open Run (RunsTo KeepsTrace)

open Step (Triple triple_pure preserves_pure)

open World (TellsTrace)

/-! ## What a run is to tell -/

section Steps

variable (s : Settings)

/-- The steps of metadata: one of its own, and one inside it for each unit of a modular plan. -/
def metadataSteps (selected : List String) : List (List String × String) :=
  if s.metadata then
    ([], Metadata.stepName) :: match s.type with
      | .monolithic => []
      | .modular => selected.map fun name =>
          ([Metadata.stepName], Metadata.stepName ++ " for " ++ name)
  else []

/-- The steps of compiling. -/
def compilingSteps : List (List String × String) :=
  if s.preventCompilation then [] else [([], Code.compileStepName), ([], Code.writeStepName)]

/-- The steps of a run, each with the steps it is inside of. -/
def steps (selected : List String) : List (List String × String) :=
  ([], Preparation.stepName) ::
    (metadataSteps s selected ++ ([], Code.generationStep) :: compilingSteps s)

/-- The steps around the whole of a stage. -/
def Stage.steps : Stage → List String
  | discovery | selection | planning => []
  | initialization => [Preparation.stepName]
  | metadata => [Metadata.stepName]
  | generation => [Code.generationStep]
  | compilation => [Code.compileStepName]
  | writing => [Code.writeStepName]

variable (places : Discovery) (around : Surroundings) (d : Disk)

/-- The steps around a failure, the innermost first. A modular plan fails to write metadata in the
step of a unit: the units before it have been written, and this one cannot be. -/
inductive Enclosing [SetOrder] : Stage → Failure → Disk → List String → Prop where
  | stage {stage : Stage} {f : Failure} {d' : Disk}
      (whole : stage = .metadata → s.type = .monolithic) : Enclosing stage f d' stage.steps
  | unit {g : Graph} {plan : Plan} {directory : Path} {done others : List OutputUnit}
      {u : OutputUnit} {f : Failure} {d₁ d' : Disk} (modular : s.type = .modular)
      (planned : Planned s places around d g plan)
      (destination : s.layout.metadata = some directory)
      (units : plan.units = done ++ u :: others)
      (written : Metadata.Written g directory d done d₁)
      (fails : Metadata.writeUnit g directory u d₁ = (.error f, d')) :
      Enclosing .metadata (Metadata.reported u f) d'
        [Metadata.stepName ++ " for " ++ u.name, Metadata.stepName]

/-- A stage has failed, and its log tells so: the steps around the failure are open, and the steps
that began are the first ones of the run. -/
structure ToldFailure [Code.Compiler] [SetOrder] (before : List Event) (stage : Stage) (t : Trace)
    (f : Failure) (w : World) : Prop where
  failed : Failed s places around d stage f w.disk
  encloses : Enclosing s places around d stage f w.disk t.opened
  begun : stage.rank ≤ Stage.selection.rank ∧ t.begun = [] ∨
    ∃ all selected, Chosen s places around d all selected ∧ t.begun <+: steps s selected
  tells : w.TellsTrace before t

/-- Some stage has failed, and the log tells so. -/
def TellsFailure [Code.Compiler] [SetOrder] (before : List Event) (f : Failure) (w : World) :
    Prop :=
  ∃ stage t, ToldFailure s places around d before stage t f w

/-- The events of a run that fails. -/
def failureEvents (f : Failure) (nanoseconds : Nat) : List Event :=
  let time := " (" ++ Log.secondsText nanoseconds ++ ")"
  let elapsed := some (Log.seconds nanoseconds)
  [⟨.error, "    Error" ++ time, none, elapsed, some f⟩,
    ⟨.error, "    FAILURE building " ++ product ++ time, none, elapsed, none⟩]

end Steps

variable {s : Settings} {places : Discovery} {around : Surroundings} {d : Disk}
  {before : List Event} {t : Trace} {all : RepositorySet} {selected : List String} {g : Graph}
  {plan : Plan} {start : Nat}

/-! ## What is told beside the steps -/

/-- Messages that tell no step leave the trace as it is. -/
theorem keepsTrace_info {message : String} (plain : Message.TellsNoStep message) :
    KeepsTrace before t (info message) :=
  Step.preserves_of_kept fun w tells => Log.turnsTrace_info plain none w.log tells

/-- Announcing a run tells no step. -/
theorem keepsTrace_announce (s : Settings) : KeepsTrace before t (announce s) := by
  have type : Indented ("  Generation type: " ++ s.type.name) := .append rfl _
  have external : Indented ("  Generate External API: '" ++ (Value.bool s.addExternal).literal ++
      "' in package '" ++ s.externalPackage ++ "'") :=
    .append (.append (.append (.append rfl _) _) _) _
  have list (lead : String) (indented : Indented lead) (texts : List String) :
      Indented (lead ++ Quoted.list texts) := .append indented _
  exact (keepsTrace_info
      (Message.tellsNoStep_of_head? (c := 'G') rfl (by decide) (by decide))).bind fun _ =>
    (keepsTrace_info (list _ rfl _).tellsNoStep).bind fun _ =>
      (keepsTrace_info (list _ rfl _).tellsNoStep).bind fun _ =>
        (keepsTrace_info (list _ rfl _).tellsNoStep).bind fun _ =>
          (keepsTrace_info type.tellsNoStep).bind fun _ => keepsTrace_info external.tellsNoStep

/-- A message with a path tells no step. -/
theorem keepsTrace_path {lead : String} (indented : Indented lead) (p : Path) :
    KeepsTrace before t (info (lead ++ toString p)) :=
  keepsTrace_info (Indented.append indented _).tellsNoStep

theorem keepsTrace_announceSources (sources : Option Path) :
    KeepsTrace before t (match sources with
      | none => return ()
      | some directory => info s!"  Codegen output directory: {directory}") := by
  cases sources with
  | none => exact preserves_pure ()
  | some directory => exact keepsTrace_path rfl directory

/-- Announcing where the outputs go tells no step. -/
theorem keepsTrace_announceLayout (s : Settings) : KeepsTrace before t (announceLayout s) := by
  unfold announceLayout
  have sources : KeepsTrace before t _ := keepsTrace_announceSources s.layout.sources
  cases s.layout.metadata with
  | none =>
    exact (keepsTrace_path rfl s.classes).bind fun _ =>
      (keepsTrace_info (Indented.tellsNoStep rfl)).bind fun _ => sources
  | some directory =>
    dsimp only
    split
    · exact (keepsTrace_path rfl s.classes).bind fun _ => sources
    · exact (keepsTrace_path rfl s.classes).bind fun _ =>
        (keepsTrace_path rfl directory).bind fun _ => sources

/-! ## What each stage tells -/

/-- The trace after the graph is prepared. -/
def prepareTrace : Trace := Trace.empty.after [([], Preparation.stepName)]

/-- The trace after metadata is written. -/
def metadataTrace (s : Settings) (selected : List String) : Trace :=
  prepareTrace.after (metadataSteps s selected)

/-- The trace after code is generated. -/
def generationTrace (s : Settings) (selected : List String) : Trace :=
  (metadataTrace s selected).after [([], Code.generationStep)]

/-- Around a failure of any stage but metadata is the step of the stage. -/
theorem enclosing_of_ne [SetOrder] {stage : Stage} {f : Failure} {d' : Disk}
    (ne : stage ≠ .metadata) :
    Enclosing s places around d stage f d' stage.steps :=
  .stage fun same => absurd same ne

/-- What began is what a run begins first. -/
theorem begun_of_prefix [SetOrder] {stage : Stage} (chosen : Chosen s places around d all selected)
    (first : t.begun <+: steps s selected) :
    stage.rank ≤ Stage.selection.rank ∧ t.begun = [] ∨
      ∃ all selected, Chosen s places around d all selected ∧ t.begun <+: steps s selected :=
  .inr ⟨all, selected, chosen, first⟩

/-- Choosing tells no step; where it fails, the trace is that of the stage that failed. -/
theorem triple_choose [Code.Compiler] [SetOrder] :
    Triple (fun w => w.disk = d ∧ w.TellsTrace before .empty)
      (fun chosen w => Chosen s places around d chosen.1 chosen.2 ∧ w.disk = d ∧
        w.TellsTrace before .empty)
      (TellsFailure s places around d before) (choose s places around) := by
  have names (lead : String) (indented : Indented lead) (texts : List String) :
      Triple (fun w => w.disk = d ∧ w.TellsTrace before .empty)
        (fun _ w => w.disk = d ∧ w.TellsTrace before .empty) (TellsFailure s places around d before)
        (info (lead ++ String.intercalate ", " texts)) :=
    Run.triple_log_on (· = d) (Log.turnsTrace_info (indented.append _).tellsNoStep none)
  refine Triple.get_bind fun w₀ ⟨at_d, _⟩ => ?_
  rw [at_d]
  refine ((Run.triple_orThrow _).fails ?_).bind fun all =>
    Step.triple_of_imp fun found => (names _ rfl _).bind fun _ =>
      ((Run.triple_orThrow _).fails ?_).bind fun selected =>
        Step.triple_of_imp fun selects => (names _ rfl _).bind fun _ =>
          triple_pure fun w holds => ⟨⟨found, selects⟩, holds⟩
  · rintro f w ⟨fails, rfl, tells⟩
    exact ⟨.discovery, .empty, .discovery fails, enclosing_of_ne (by decide),
      .inl ⟨by decide, rfl⟩, tells⟩
  · rintro f w ⟨fails, rfl, tells⟩
    exact ⟨.selection, .empty, .selection found fails, enclosing_of_ne (by decide),
      .inl ⟨by decide, rfl⟩, tells⟩

/-- Preparing tells its own step. -/
theorem triple_prepared [Code.Compiler] [SetOrder]
    (chosen : Chosen s places around d all selected) :
    Triple (fun w => w.disk = d ∧ w.TellsTrace before .empty)
      (fun g w => PreparesTo d all selected (cacheOf s) (.ok g) ∧ w.disk = d ∧
        w.TellsTrace before prepareTrace)
      (TellsFailure s places around d before) (prepare all selected (cacheOf s)) := by
  refine (Run.triple_runsTo (· = d) triple_prepare).weaken (fun _ => id) ?_ ?_
  · rintro g w ⟨⟨d₁, rfl, leads⟩, tells⟩
    obtain ⟨kept, prepared⟩ := preparesTo_of_runsTo leads
    exact ⟨prepared, kept, tells⟩
  · rintro f w ⟨⟨d₁, rfl, leads⟩, errors, tells⟩
    obtain ⟨kept, fails⟩ := preparesTo_of_runsTo leads
    have failed : Failed s places around w.disk .initialization f w.disk :=
      .initialization (kept ▸ chosen) (kept ▸ fails)
    exact ⟨.initialization, _, kept ▸ failed, enclosing_of_ne (by decide),
      begun_of_prefix chosen ⟨_, rfl⟩, tells⟩

/-- Planning tells none. -/
theorem triple_planned [Code.Compiler] [SetOrder] (chosen : Chosen s places around d all selected)
    (prepares : PreparesTo d all selected (cacheOf s) (.ok g)) :
    Triple (fun w => w.disk = d ∧ w.TellsTrace before prepareTrace)
      (fun plan w => Plan.build s.type selected = .ok plan ∧ w.disk = d ∧
        w.TellsTrace before prepareTrace)
      (TellsFailure s places around d before) (Run.orThrow (Plan.build s.type selected)) := by
  refine (Run.triple_orThrow _).fails ?_
  rintro f w ⟨fails, rfl, tells⟩
  exact ⟨.planning, prepareTrace, .planning chosen prepares fails, enclosing_of_ne (by decide),
    begun_of_prefix chosen ⟨_, rfl⟩, tells⟩

theorem metadataSteps_of_disabled (disabled : s.metadata = false) (selected : List String) :
    metadataSteps s selected = [] := by
  unfold metadataSteps
  rw [disabled]
  rfl

/-- Monolithic metadata are one step. -/
theorem metadataSteps_whole (enabled : s.metadata = true) (type : s.type = .monolithic)
    (selected : List String) : metadataSteps s selected = [([], Metadata.stepName)] := by
  unfold metadataSteps
  rw [enabled, type]
  rfl

/-- Modular metadata are a step with one inside it for each unit. -/
theorem metadataSteps_modular (enabled : s.metadata = true) (type : s.type = .modular)
    (built : Plan.build .modular selected = .ok plan) : metadataSteps s selected =
      ([], Metadata.stepName) :: Metadata.unitSteps prepareTrace plan.units := by
  unfold metadataSteps Metadata.unitSteps
  rw [enabled, type, Plan.units_of_build built, Plan.unitsFor, List.map_map]
  rfl

/-- In the step of a unit, what began are the first steps of the run. -/
theorem prefix_at_unit {done others : List OutputUnit} {u : OutputUnit}
    (enabled : s.metadata = true) (type : s.type = .modular)
    (built : Plan.build .modular selected = .ok plan) (units : plan.units = done ++ u :: others) :
    (((prepareTrace.begins Metadata.stepName).after (Metadata.unitSteps prepareTrace done)).begins
      (Metadata.unitStep u)).begun <+: steps s selected := by
  unfold steps
  rw [metadataSteps_modular enabled type built, units,
    List.append_cons done u others, Metadata.unitSteps_append, Metadata.unitSteps_append]
  refine ⟨Metadata.unitSteps prepareTrace others ++
    ([], Code.generationStep) :: compilingSteps s, ?_⟩
  change [([], Preparation.stepName), ([], Metadata.stepName)] ++
      Metadata.unitSteps prepareTrace done ++ Metadata.unitSteps prepareTrace [u] ++ _ =
    [([], Preparation.stepName), ([], Metadata.stepName)] ++
      (Metadata.unitSteps prepareTrace done ++ Metadata.unitSteps prepareTrace [u] ++
        Metadata.unitSteps prepareTrace others) ++ _
  simp only [List.append_assoc]

theorem layout_metadata_of_disabled (disabled : s.metadata = false) : s.layout.metadata = none := by
  unfold Settings.layout Settings.metadataDirectory
  rw [disabled]
  rfl

theorem exists_layout_metadata (enabled : s.metadata = true) :
    ∃ directory, s.layout.metadata = some directory := by
  unfold Settings.layout Settings.metadataDirectory
  rw [enabled]
  cases s.singleDirectory with
  | true => exact ⟨_, rfl⟩
  | false => exact ⟨_, rfl⟩

section Metadata

variable [Code.Compiler] [SetOrder] (chosen : Chosen s places around d all selected)
  (built : Plan.build s.type selected = .ok plan)

/-- How the trace of metadata ends, if it is known that a failure is one of this stage. -/
abbrev TellsMetadata (s : Settings) (places : Discovery) (around : Surroundings) (d : Disk)
    (before : List Event) (selected : List String) (x : Run (List Path)) : Prop :=
  Triple (fun w => w.disk = d ∧ w.TellsTrace before prepareTrace)
    (fun _ w => w.TellsTrace before (metadataTrace s selected))
    (fun f w => Failed s places around d .metadata f w.disk →
      TellsFailure s places around d before f w) x

/-- Without metadata nothing is told. -/
theorem tellsMetadata_of_disabled (disabled : s.metadata = false) :
    TellsMetadata s places around d before selected (publish g plan s.layout.metadata) := by
  rw [layout_metadata_of_disabled disabled]
  refine triple_pure fun w ⟨_, tells⟩ => ?_
  unfold metadataTrace
  rwa [metadataSteps_of_disabled disabled]

include chosen built

/-- Publishing the whole graph tells one step. -/
theorem tellsMetadata_whole (enabled : s.metadata = true) (type : s.type = .monolithic) :
    TellsMetadata s places around d before selected (publish g plan s.layout.metadata) := by
  obtain ⟨directory, destination⟩ := exists_layout_metadata enabled
  rw [destination]
  have whole : plan.isModular = false := by
    rw [Plan.isModular_of_build built, type]
    rfl
  refine (Metadata.triple_publish_whole whole).weaken (fun _ ⟨_, tells⟩ => tells) ?_ ?_
  · intro _ w tells
    unfold metadataTrace
    rw [metadataSteps_whole enabled type]
    exact tells
  · intro f w tells failed
    refine ⟨.metadata, _, failed, .stage fun _ => type, begun_of_prefix chosen ?_, tells⟩
    unfold steps
    rw [metadataSteps_whole enabled type]
    exact ⟨_, rfl⟩

/-- Publishing units tells a step with one for each unit inside. -/
theorem tellsMetadata_modular (planned : Planned s places around d g plan)
    (enabled : s.metadata = true) (type : s.type = .modular) :
    TellsMetadata s places around d before selected (publish g plan s.layout.metadata) := by
  obtain ⟨directory, destination⟩ := exists_layout_metadata enabled
  rw [type] at built
  rw [destination]
  refine (Metadata.triple_publish_modular (Plan.isModular_of_build built)).weaken
    (fun _ => id) ?_ ?_
  · intro _ w tells
    unfold metadataTrace
    rw [metadataSteps_modular enabled type built]
    exact tells
  · rintro f w ⟨done, u, others, units, ⟨d₁, f', written, fails, rfl⟩, tells⟩ failed
    refine ⟨.metadata, _, failed, .unit type planned destination units written fails,
      begun_of_prefix chosen (prefix_at_unit enabled type built units), tells⟩

end Metadata

/-- Metadata is told after the graph is prepared. -/
theorem triple_published [Code.Compiler] [SetOrder] (chosen : Chosen s places around d all selected)
    (built : Plan.build s.type selected = .ok plan) (planned : Planned s places around d g plan) :
    Triple (fun w => w.disk = d ∧ w.TellsTrace before prepareTrace)
      (fun _ w => Published s places around d g plan w.disk ∧
        w.TellsTrace before (metadataTrace s selected))
      (TellsFailure s places around d before) (publish g plan s.layout.metadata) := by
  have told : TellsMetadata s places around d before selected
      (publish g plan s.layout.metadata) := by
    cases enabled : s.metadata with
    | false => exact tellsMetadata_of_disabled enabled
    | true =>
      cases type : s.type with
      | monolithic => exact tellsMetadata_whole chosen built enabled type
      | modular => exact tellsMetadata_modular chosen built planned enabled type
  refine (Run.triple_runsTo (· = d) told).weaken (fun _ ⟨same, tells⟩ => ⟨same, same, tells⟩) ?_ ?_
  · rintro units w ⟨⟨d₁, rfl, leads⟩, tells⟩
    exact ⟨⟨planned, units, leads⟩, tells⟩
  · rintro f w ⟨⟨d₁, rfl, leads⟩, stops⟩
    exact stops (.metadata planned leads)

/-- The steps of a run: those up to generated code, and those of compiling. -/
theorem steps_eq (s : Settings) (selected : List String) :
    steps s selected = (generationTrace s selected).begun ++ compilingSteps s := by
  change [([], Preparation.stepName)] ++
    (metadataSteps s selected ++ ([([], Code.generationStep)] ++ compilingSteps s)) =
      [([], Preparation.stepName)] ++ metadataSteps s selected ++ [([], Code.generationStep)] ++
        compilingSteps s
  simp only [List.append_assoc]

/-- Generated code is told after metadata. -/
theorem triple_generated [Code.Compiler] [SetOrder]
    (chosen : Chosen s places around d all selected) :
    Triple (fun w => Published s places around d g plan w.disk ∧
        w.TellsTrace before (metadataTrace s selected))
      (fun code w => code = Code.ofPlan g plan s.external ∧
        Generated s places around d g plan w.disk ∧
        w.TellsTrace before (generationTrace s selected))
      (TellsFailure s places around d before)
      (Code.generateStep g plan s.external s.layout.sources) := by
  refine (Run.triple_runsTo (Published s places around d g plan) Code.triple_generateStep).weaken
    (fun _ => id) ?_ ?_
  · rintro code w ⟨⟨d₁, published, leads⟩, tells⟩
    have written := generateInto_of_step leads
    have same := eq_of_generateInto written
    subst same
    exact ⟨rfl, ⟨d₁, published, written⟩, tells⟩
  · rintro f w ⟨⟨d₁, published, leads⟩, tells⟩
    refine ⟨.generation, _, .generation published (generateInto_of_step leads),
      enclosing_of_ne (by decide), begun_of_prefix chosen ?_, tells⟩
    rw [steps_eq]
    exact List.prefix_append _ _

theorem compilingSteps_of_prevented (prevented : s.preventCompilation = true) :
    compilingSteps s = [] := by
  unfold compilingSteps
  rw [prevented]
  rfl

theorem compilingSteps_of_compiles (compiles : s.preventCompilation = false) :
    compilingSteps s = [([], Code.compileStepName), ([], Code.writeStepName)] := by
  unfold compilingSteps
  rw [compiles]
  rfl

/-- Code does not compile: the step of compiling is open. -/
theorem tellsFailure_of_compilation [SetOrder] [Code.Compiler] {f : Failure} {w : World}
    (chosen : Chosen s places around d all selected) (compiles : s.preventCompilation = false)
    (generated : Generated s places around d g plan w.disk)
    (fails : Code.compile (Code.ofPlan g plan s.external) = .error f)
    (tells : w.TellsTrace before ((generationTrace s selected).begins Code.compileStepName)) :
    TellsFailure s places around d before f w := by
  refine ⟨.compilation, _, .compilation generated compiles fails, enclosing_of_ne (by decide),
    begun_of_prefix chosen ?_, tells⟩
  rw [steps_eq, compilingSteps_of_compiles compiles]
  exact (List.prefix_append_right_inj _).mpr ⟨_, rfl⟩

/-- What was compiled cannot be written: the step of writing is open. -/
theorem tellsFailure_of_writing [SetOrder] [Code.Compiler] {f : Failure} {w : World}
    {modules : List CompiledModule} {d₁ : Disk}
    (chosen : Chosen s places around d all selected) (compiles : s.preventCompilation = false)
    (generated : Generated s places around d g plan d₁)
    (compiled : Code.compile (Code.ofPlan g plan s.external) = .ok modules)
    (fails : RunsTo (Code.writeModules s.classes modules) d₁ (.error f) w.disk)
    (tells : w.TellsTrace before (((generationTrace s selected).after
      [([], Code.compileStepName)]).begins Code.writeStepName)) :
    TellsFailure s places around d before f w := by
  refine ⟨.writing, _, .writing generated compiles compiled fails, enclosing_of_ne (by decide),
    begun_of_prefix chosen ?_, tells⟩
  rw [steps_eq, compilingSteps_of_compiles compiles]
  change (_ ++ [([], Code.compileStepName)]) ++ [([], Code.writeStepName)] <+: _
  rw [List.append_assoc]
  exact List.prefix_refl _

/-- Compiling is told last, unless it is prevented. -/
theorem triple_compiled [SetOrder] [Code.Compiler]
    (chosen : Chosen s places around d all selected) :
    Triple (fun w => Generated s places around d g plan w.disk ∧
        w.TellsTrace before (generationTrace s selected))
      (fun _ w => w.TellsTrace before ⟨steps s selected, [], 0⟩)
      (TellsFailure s places around d before) (compile s (Code.ofPlan g plan s.external)) := by
  have whole : (⟨steps s selected, [], 0⟩ : Trace) =
      (generationTrace s selected).after (compilingSteps s) :=
    congrArg (Trace.mk · [] 0) (steps_eq s selected)
  rw [whole]
  unfold compile
  cases prevented : s.preventCompilation with
  | true =>
    rw [compilingSteps_of_prevented prevented, Trace.after_nil]
    exact (Run.triple_log_on _ (Log.turnsTrace_info (Indented.tellsNoStep rfl) none)).bind fun _ =>
      triple_pure fun _ ⟨_, tells⟩ => tells
  | false =>
    rw [compilingSteps_of_compiles prevented]
    refine (Run.triple_runsTo (Generated s places around d g plan) Code.triple_compileStep).weaken
      (fun _ => id) (fun _ _ told => told.2) ?_
    rintro f w ⟨⟨d₁, generated, leads⟩, told⟩
    rcases compileStep_cases leads with ⟨_, fails, same, kept⟩ | ⟨modules, compiled, written⟩
    · cases same
      rcases told with ⟨-, tells⟩ | ⟨⟨_, no⟩, -⟩
      · exact tellsFailure_of_compilation chosen prevented (kept ▸ generated) fails tells
      · cases fails.symm.trans no
    · rcases told with ⟨no, -⟩ | ⟨-, tells⟩
      · cases compiled.symm.trans no
      · exact tellsFailure_of_writing chosen prevented generated compiled written tells

/-! ## What a run tells -/

/-- The last step closes what has been told. -/
theorem triple_total {failed : Failure → World → Prop} (step : String) (start : Nat) :
    Triple (TellsTrace before t)
      (fun total w => ∃ body, w.log.events = before ++ body ++ [.finished step total] ∧
        Trace.of body = some t)
      failed (Run.log (Log.completeStep step start)) := by
  refine Step.triple_of_run (Run.run_log _) ?_ fun _ _ _ no => nomatch no
  rintro w total ⟨body, same, told⟩ done
  cases done
  refine ⟨body, ?_, told⟩
  rw [← same]
  rfl

/-- The stages of a run tell its steps, or they stop at the failure of one of them. -/
theorem triple_stages [Code.Compiler] [SetOrder] :
    Triple (fun w => w.disk = d ∧ w.TellsTrace before .empty)
      (fun summary w => (∃ all, Chosen s places around d all summary.selected) ∧
        ∃ body, w.log.events =
          before ++ body ++ [.finished ("building " ++ product) summary.nanoseconds] ∧
            Trace.of body = some ⟨steps s summary.selected, [], 0⟩)
      (TellsFailure s places around d before) (stages s places around start) := by
  unfold stages
  refine triple_choose.bind fun (all, selected) => Step.triple_of_imp fun chosen =>
    (Run.triple_of_leavesDisk (leavesDisk_announceLayout s)
      (keepsTrace_announceLayout s)).bind fun _ =>
      (triple_prepared chosen).bind fun g => Step.triple_of_imp fun prepares =>
        (triple_planned chosen prepares).bind fun plan => Step.triple_of_imp fun built => ?_
  have planned : Planned s places around d g plan := ⟨all, selected, chosen, prepares, built⟩
  refine (triple_published chosen built planned).bind fun units =>
    (triple_generated chosen).bind fun code => Step.triple_of_imp fun same => ?_
  subst same
  exact (triple_compiled chosen).bind fun files =>
    (triple_total ("building " ++ product) start).bind fun total =>
      triple_pure fun w told => ⟨⟨all, chosen⟩, told⟩

/-- A run that is given up tells the failure, and then that it has failed. -/
theorem run_abandon {α : Type} (start : Nat) (f : Failure) (w : World) :
    ∃ nanoseconds w', (abandon start f : Run α).run.run w =
        (.error (.pipeline ("Error building " ++ product) (Log.seconds nanoseconds) (some f)), w') ∧
      w'.disk = w.disk ∧ w'.log.events = w.log.events ++ failureEvents f nanoseconds := by
  refine ⟨w.log.now + 1 - start, _, rfl, rfl, ?_⟩
  change (w.log.events ++ [_]) ++ [_] = w.log.events ++ ([_] ++ [_])
  exact List.append_assoc _ _ _

/-- A run that is not skipped goes through its stages, and gives up if one of them fails. -/
theorem triple_run [Code.Compiler] [SetOrder] (places : Discovery) (around : Surroundings)
    (works : s.skip = false) (d : Disk) (before : List Event) :
    Triple (fun w => w.disk = d ∧ w.log.events = before)
      (fun summary w => (∃ all, Chosen s places around d all summary.selected) ∧
        ∃ body, w.log.events =
          before ++ body ++ [.finished ("building " ++ product) summary.nanoseconds] ∧
            Trace.of body = some ⟨steps s summary.selected, [], 0⟩)
      (fun f' w => ∃ f w₁ nanoseconds, TellsFailure s places around d before f w₁ ∧
        f' = .pipeline ("Error building " ++ product) (Log.seconds nanoseconds) (some f) ∧
        w.disk = w₁.disk ∧ w.log.events = w₁.log.events ++ failureEvents f nanoseconds)
      (run s places around) := by
  unfold run
  rw [works, if_neg Bool.false_ne_true]
  refine ((Run.triple_log_on (· = d) Log.turnsTrace_clock).weaken ?_ (fun _ _ => id)
    fun _ _ => id).bind fun start =>
      (Run.triple_of_leavesDisk (leavesDisk_announce s) (keepsTrace_announce s)).bind fun _ =>
        triple_stages.tryCatch fun f w₁ stops => ?_
  · rintro w ⟨same, rfl⟩
    exact ⟨same, Log.tellsTrace_empty w.log⟩
  · obtain ⟨nanoseconds, w', ran, kept, events⟩ := run_abandon (α := Summary) start f w₁
    rw [ran]
    refine ⟨fun _ _ no => (nomatch no), fun f' w ended => ?_⟩
    cases ended
    exact ⟨f, w₁, nanoseconds, stops, rfl, kept, events⟩

/-- What a run that is not skipped tells, whatever is on the disk. If it succeeds, its events but
the last one are read as its steps, each opened after the one before it had finished, or inside the
step of the metadata: in order, all of them finished, and without an error. If it fails, they are
read as the first of these steps, and those that have not finished are the ones around the failure;
the last two events tell its cause and that the run has failed. -/
theorem run_trace [Code.Compiler] [SetOrder] (s : Settings) (places : Discovery)
    (around : Surroundings) (w : World) (works : s.skip = false) :
    (∃ summary w' all body, Run.perform (run s places around) w = (.ok summary, w') ∧
      Chosen s places around w.disk all summary.selected ∧
      w'.log.events = w.log.events ++ body ++
        [.finished "building compiled mode artifacts" summary.nanoseconds] ∧
      Trace.of body = some ⟨steps s summary.selected, [], 0⟩ ∧
      ∀ e ∈ body, e.severity ≠ .error) ∨
    ∃ stage f t nanoseconds w' body,
      Run.perform (run s places around) w = (.error (.pipeline
        "Error building compiled mode artifacts" (Log.seconds nanoseconds) (some f)), w') ∧
      Failed s places around w.disk stage f w'.disk ∧
      Enclosing s places around w.disk stage f w'.disk t.opened ∧
      (stage.rank ≤ Stage.selection.rank ∧ t.begun = [] ∨
        ∃ all selected, Chosen s places around w.disk all selected ∧
          t.begun <+: steps s selected) ∧
      w'.log.events = w.log.events ++ body ++ failureEvents f nanoseconds ∧
      Trace.of body = some t := by
  obtain ⟨done, fails⟩ := triple_run places around works w.disk w.log.events w ⟨rfl, rfl⟩
  rcases outcome : Run.perform (run s places around) w with ⟨result, w'⟩
  cases result with
  | ok summary =>
    obtain ⟨⟨all, chosen⟩, body, events, told⟩ := done summary w' outcome
    exact .inl ⟨summary, w', all, body, rfl, chosen, events, told,
      Trace.harmless_of_errors told rfl⟩
  | error f' =>
    obtain ⟨f, w₁, nanoseconds, ⟨stage, t, stopped⟩, rfl, kept, events⟩ := fails f' w' outcome
    obtain ⟨body, same, told⟩ := stopped.tells
    refine .inr ⟨stage, f, t, nanoseconds, w', body, rfl, kept ▸ stopped.failed,
      kept ▸ stopped.encloses, stopped.begun, ?_, told⟩
    rw [events, same]

open Sample (alone pairDisk pairSettings)

attribute [local instance] SetOrder.asWritten Code.Compiler.ofFaults in
/-- A run on two repositories without metadata and compiling tells two steps. -/
theorem run_trace_sample : ∃ summary w' body,
    Run.perform (run pairSettings ⟨false, false⟩ alone) ⟨pairDisk, .empty⟩ = (.ok summary, w') ∧
    w'.log.events =
      body ++ [.finished "building compiled mode artifacts" summary.nanoseconds] ∧
    Trace.of body = some ⟨[([], "graph initialization"), ([], "code generation")], [], 0⟩ := by
  obtain ⟨summary, w', done⟩ := Sample.run_pair (w := ⟨pairDisk, .empty⟩) rfl
  rcases run_trace pairSettings ⟨false, false⟩ alone ⟨pairDisk, .empty⟩ rfl with
    ⟨_, _, all, body, ran, chosen, events, told, -⟩ | ⟨_, _, _, _, _, _, no, -⟩
  · cases done.symm.trans ran
    exact ⟨summary, w', body, done, events, told⟩
  · cases done.symm.trans no

end Pipeline

end ModelForge
