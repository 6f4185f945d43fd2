import ModelForge.Pipeline
import ModelForge.Proofs.Run

/-! # The stages of a run

A run goes through its stages one after the other. It stops at the first one that fails and leaves
the disk as that stage left it (`ModelForge.Pipeline.Failed`), or it gets to the end
(`ModelForge.Pipeline.Completed`), and there is no other way for it to end
(`ModelForge.Pipeline.stages_cases`).
-/

namespace ModelForge

namespace Pipeline

open Run (RunsTo LeavesDisk)

/-- The stages of a run that can fail, in order. -/
inductive Stage where
  | discovery
  | selection
  | initialization
  | planning
  | metadata
  | generation
  | compilation
  | writing
  deriving DecidableEq, Repr

/-- How many stages come before a stage. -/
def Stage.rank : Stage → Nat
  | discovery => 0
  | selection => 1
  | initialization => 2
  | planning => 3
  | metadata => 4
  | generation => 5
  | compilation => 6
  | writing => 7

/-- What preparing the graph of a selection comes to. -/
def PreparesTo [SetOrder] (d : Disk) (all : RepositorySet) (selected : List String) (cache : Cache)
    (result : Except Failure Graph) : Prop :=
  ∃ l, (Preparation.run d all selected cache l).1 = result

section Ends

variable (s : Settings) (places : Discovery) (around : Surroundings) (d : Disk)

/-- The repositories that a run finds and those that it works on. -/
structure Chosen [SetOrder] (all : RepositorySet) (selected : List String) : Prop where
  found : places.discover around d s.extra = .ok all
  selects : all.select s.repositories s.excluded = .ok selected

/-- The graph and the plan that a run works on. -/
def Planned [SetOrder] (g : Graph) (plan : Plan) : Prop :=
  ∃ all selected, Chosen s places around d all selected ∧
    PreparesTo d all selected (cacheOf s) (.ok g) ∧ Plan.build s.type selected = .ok plan

/-- The disk after the metadata of a run. -/
def Published [SetOrder] (g : Graph) (plan : Plan) (d' : Disk) : Prop :=
  Planned s places around d g plan ∧
    ∃ units, RunsTo (publish g plan s.layout.metadata) d (.ok units) d'

/-- The disk after the generated code of a run. -/
def Generated [SetOrder] (g : Graph) (plan : Plan) (d' : Disk) : Prop :=
  ∃ d₁, Published s places around d g plan d₁ ∧
    RunsTo (Code.generateInto g plan s.external s.layout.sources) d₁
      (.ok (Code.ofPlan g plan s.external)) d'

/-- A stage fails after all stages before it succeeded: why, and what it leaves on the disk. -/
inductive Failed [SetOrder] [Code.Compiler] : Stage → Failure → Disk → Prop where
  | discovery {f : Failure} (fails : places.discover around d s.extra = .error f) :
      Failed .discovery f d
  | selection {all : RepositorySet} {f : Failure}
      (found : places.discover around d s.extra = .ok all)
      (fails : all.select s.repositories s.excluded = .error f) : Failed .selection f d
  | initialization {all : RepositorySet} {selected : List String} {f : Failure}
      (chosen : Chosen s places around d all selected)
      (fails : PreparesTo d all selected (cacheOf s) (.error f)) : Failed .initialization f d
  | planning {all : RepositorySet} {selected : List String} {g : Graph} {f : Failure}
      (chosen : Chosen s places around d all selected)
      (prepared : PreparesTo d all selected (cacheOf s) (.ok g))
      (fails : Plan.build s.type selected = .error f) : Failed .planning f d
  | metadata {g : Graph} {plan : Plan} {f : Failure} {d' : Disk}
      (planned : Planned s places around d g plan)
      (fails : RunsTo (publish g plan s.layout.metadata) d (.error f) d') : Failed .metadata f d'
  | generation {g : Graph} {plan : Plan} {f : Failure} {d₁ d' : Disk}
      (published : Published s places around d g plan d₁)
      (fails : RunsTo (Code.generateInto g plan s.external s.layout.sources) d₁ (.error f) d') :
      Failed .generation f d'
  | compilation {g : Graph} {plan : Plan} {f : Failure} {d' : Disk}
      (generated : Generated s places around d g plan d')
      (compiles : s.preventCompilation = false)
      (fails : Code.compile (Code.ofPlan g plan s.external) = .error f) : Failed .compilation f d'
  | writing {g : Graph} {plan : Plan} {modules : List CompiledModule} {f : Failure} {d₁ d' : Disk}
      (generated : Generated s places around d g plan d₁)
      (compiles : s.preventCompilation = false)
      (compiled : Code.compile (Code.ofPlan g plan s.external) = .ok modules)
      (fails : RunsTo (Code.writeModules s.classes modules) d₁ (.error f) d') : Failed .writing f d'

/-- No stage fails: what is left on the disk. -/
inductive Completed [SetOrder] [Code.Compiler] : Disk → Prop where
  | uncompiled {g : Graph} {plan : Plan} {d' : Disk}
      (generated : Generated s places around d g plan d')
      (prevented : s.preventCompilation = true) : Completed d'
  | compiled {g : Graph} {plan : Plan} {modules : List CompiledModule} {files : List Path}
      {d₁ d' : Disk} (generated : Generated s places around d g plan d₁)
      (compiles : s.preventCompilation = false)
      (compiled : Code.compile (Code.ofPlan g plan s.external) = .ok modules)
      (written : RunsTo (Code.writeModules s.classes modules) d₁ (.ok files) d') : Completed d'

/-- What a run with a summary has done. -/
def EndedWith [SetOrder] [Code.Compiler] (summary : Summary) (d' : Disk) : Prop :=
  ∃ g plan d₁, Generated s places around d g plan d₁ ∧
    Plan.build s.type summary.selected = .ok plan ∧
    summary.generation = some (Code.ofPlan g plan s.external) ∧
    RunsTo (compile s (Code.ofPlan g plan s.external)) d₁ (.ok summary.compiled) d'

end Ends

variable {s : Settings} {places : Discovery} {around : Surroundings} {d d' : Disk} {β : Type}
  {all : RepositorySet} {selected : List String} {cache : Cache} {g : Graph} {plan : Plan}
  {external : Code.ExternalPackage} {directory : Option Path} {code : Generation} {start : Nat}

/-! ## What the stages come to -/

theorem leavesDisk_info (message : String) : LeavesDisk (info message) := Run.leavesDisk_log _

/-- Announcing a run leaves the disk alone. -/
theorem leavesDisk_announce (s : Settings) : LeavesDisk (announce s) :=
  (leavesDisk_info _).bind fun _ => (leavesDisk_info _).bind fun _ =>
    (leavesDisk_info _).bind fun _ => (leavesDisk_info _).bind fun _ =>
      (leavesDisk_info _).bind fun _ => leavesDisk_info _

theorem leavesDisk_announceSources (sources : Option Path) : LeavesDisk (match sources with
    | none => return ()
    | some directory => info s!"  Codegen output directory: {directory}") := by
  cases sources with
  | none => exact Run.leavesDisk_pure ()
  | some directory => exact leavesDisk_info _

/-- Announcing where the outputs go leaves the disk alone. -/
theorem leavesDisk_announceLayout (s : Settings) : LeavesDisk (announceLayout s) := by
  unfold announceLayout
  have sources := leavesDisk_announceSources s.layout.sources
  cases s.layout.metadata with
  | none => exact (leavesDisk_info _).bind fun _ => (leavesDisk_info _).bind fun _ => sources
  | some directory =>
    dsimp only
    split
    · exact (leavesDisk_info _).bind fun _ => sources
    · exact (leavesDisk_info _).bind fun _ => (leavesDisk_info _).bind fun _ => sources

/-- A run that begins by choosing fails there or goes on with its choice. -/
theorem choose_bind [Code.Compiler] [SetOrder] {next : RepositorySet × List String → Run β}
    {last : Except Failure β} (leads : RunsTo (choose s places around >>= next) d last d') :
    (∃ stage f, last = .error f ∧ Failed s places around d stage f d') ∨
      ∃ all selected, Chosen s places around d all selected ∧
        RunsTo (next (all, selected)) d last d' := by
  unfold choose at leads
  simp only [bind_assoc, pure_bind] at leads
  obtain ⟨_, leads⟩ := leads.get
  rcases leads.orThrow_bind with ⟨f, fails, rfl, rfl⟩ | ⟨all, found, leads⟩
  · exact .inl ⟨.discovery, f, rfl, .discovery fails⟩
  · obtain ⟨_, leads⟩ := leads.after (leavesDisk_info _)
    rcases leads.orThrow_bind with ⟨f, fails, rfl, rfl⟩ | ⟨selected, selects, leads⟩
    · exact .inl ⟨.selection, f, rfl, .selection found fails⟩
    · obtain ⟨_, leads⟩ := leads.after (leavesDisk_info _)
      exact .inr ⟨all, selected, ⟨found, selects⟩, leads⟩

/-- A run that prepares a graph leaves the disk alone and gives what preparing does. -/
theorem preparesTo_of_runsTo [SetOrder] {result : Except Failure Graph}
    (leads : RunsTo (prepare all selected cache) d result d') :
    d' = d ∧ PreparesTo d all selected cache result := by
  obtain ⟨l, l', ran⟩ := leads
  unfold prepare Run.perform at ran
  rw [Step.run_bind_of_ok (Step.run_get _)] at ran
  rcases outcome : Preparation.run d all selected cache l with ⟨given, miss, log⟩
  simp only [outcome] at ran
  rw [Step.run_bind_of_ok (Step.run_set _ _), Run.run_orThrow] at ran
  cases ran
  exact ⟨rfl, l, by rw [outcome]⟩

/-- The step that tells of generating does what generating does. -/
theorem generateInto_of_step {result : Except Failure Generation}
    (leads : RunsTo (Code.generateStep g plan external directory) d result d') :
    RunsTo (Code.generateInto g plan external directory) d result d' := by
  unfold Code.generateStep at leads
  obtain ⟨start, leads⟩ := leads.after (Run.leavesDisk_log _)
  rcases leads.bind with ⟨f, rfl, fails⟩ | ⟨code, d₁, done, leads⟩
  · exact fails
  · obtain ⟨_, leads⟩ := leads.after (Run.leavesDisk_log _)
    obtain ⟨_, leads⟩ := leads.after (Run.leavesDisk_log _)
    obtain ⟨rfl, rfl⟩ := leads.pure
    exact done

/-- Code that was generated is the code of the plan. -/
theorem eq_of_generate (generated : Code.generate g plan external = .ok code) :
    code = Code.ofPlan g plan external := by
  unfold Code.generate at generated
  split at generated
  · cases generated
    rfl
  · cases generated

/-- The code of a run is that of its graph for its plan. -/
theorem eq_of_generateInto
    (leads : RunsTo (Code.generateInto g plan external directory) d (.ok code) d') :
    code = Code.ofPlan g plan external := by
  unfold Code.generateInto at leads
  rcases leads.orThrow_bind with ⟨f, -, no, -⟩ | ⟨made, generated, leads⟩
  · cases no
  have same : code = made := by
    cases directory with
    | none =>
      obtain ⟨same, -⟩ := leads.pure
      exact Except.ok.inj same
    | some directory =>
      rcases leads.bind with ⟨f, no, -⟩ | ⟨files, d₁, -, leads⟩
      · cases no
      · obtain ⟨same, -⟩ := leads.pure
        exact Except.ok.inj same
  rw [same]
  exact eq_of_generate generated

/-- Compiling fails on the disk as it is, or goes on to write the modules. -/
theorem compileStep_cases [Code.Compiler] {classes : Path} {result : Except Failure (List Path)}
    (leads : RunsTo (Code.compileStep code classes) d result d') :
    (∃ f, Code.compile code = .error f ∧ result = .error f ∧ d' = d) ∨
      ∃ modules, Code.compile code = .ok modules ∧
        RunsTo (Code.writeModules classes modules) d result d' := by
  unfold Code.compileStep at leads
  obtain ⟨_, leads⟩ := leads.after (Run.leavesDisk_log _)
  refine leads.orThrow_bind.imp id ?_
  rintro ⟨modules, compiled, leads⟩
  obtain ⟨_, leads⟩ := leads.after (Run.leavesDisk_log _)
  obtain ⟨_, leads⟩ := leads.after (Run.leavesDisk_log _)
  rcases leads.bind with ⟨f, rfl, fails⟩ | ⟨files, d₁, written, leads⟩
  · exact ⟨modules, compiled, fails⟩
  · obtain ⟨_, leads⟩ := leads.after (Run.leavesDisk_log _)
    obtain ⟨_, leads⟩ := leads.after (Run.leavesDisk_log _)
    obtain ⟨rfl, rfl⟩ := leads.pure
    exact ⟨modules, compiled, written⟩

/-! ## How a run ends -/

variable [Code.Compiler] [SetOrder]

/-- After its code is generated, a run ends with compiling it, unless that is prevented. -/
theorem compile_cases {d₁ : Disk} {result : Except Failure (List Path)}
    (generated : Generated s places around d g plan d₁)
    (leads : RunsTo (compile s (Code.ofPlan g plan s.external)) d₁ result d') :
    (∃ stage f, result = .error f ∧ Failed s places around d stage f d') ∨
      (∃ files, result = .ok files) ∧ Completed s places around d d' := by
  unfold compile at leads
  split at leads
  · next prevented =>
    obtain ⟨_, leads⟩ := leads.after (leavesDisk_info _)
    obtain ⟨rfl, rfl⟩ := leads.pure
    exact .inr ⟨⟨[], rfl⟩, .uncompiled generated prevented⟩
  · next compiles =>
    have compiles := Bool.eq_false_iff.mpr compiles
    rcases compileStep_cases leads with ⟨f, fails, rfl, rfl⟩ | ⟨modules, compiled, leads⟩
    · exact .inl ⟨.compilation, f, rfl, .compilation generated compiles fails⟩
    · cases result with
      | error f => exact .inl ⟨.writing, f, rfl, .writing generated compiles compiled leads⟩
      | ok files => exact .inr ⟨⟨files, rfl⟩, .compiled generated compiles compiled leads⟩

/-- A run that ends with a summary has completed its stages. -/
theorem EndedWith.completed {summary : Summary} (ended : EndedWith s places around d summary d') :
    Completed s places around d d' := by
  obtain ⟨g, plan, d₁, generated, -, -, leads⟩ := ended
  rcases compile_cases generated leads with ⟨_, _, no, -⟩ | ⟨-, completed⟩
  · cases no
  · exact completed

/-- The stages of a run end with the first of them that fails, or after the last one. -/
theorem stages_cases {result : Except Failure Summary}
    (leads : RunsTo (stages s places around start) d result d') :
    (∃ stage f, result = .error f ∧ Failed s places around d stage f d') ∨
      ∃ summary, result = .ok summary ∧ EndedWith s places around d summary d' := by
  unfold stages at leads
  rcases choose_bind leads with stopped | ⟨all, selected, chosen, onLayout⟩
  · exact .inl stopped
  obtain ⟨_, onGraph⟩ := onLayout.after (leavesDisk_announceLayout s)
  rcases onGraph.bind with ⟨f, rfl, fails⟩ | ⟨g, d₁, prepares, onPlan⟩
  · obtain ⟨rfl, fails⟩ := preparesTo_of_runsTo fails
    exact .inl ⟨.initialization, f, rfl, .initialization chosen fails⟩
  obtain ⟨same, prepared⟩ := preparesTo_of_runsTo prepares
  subst same
  rcases onPlan.orThrow_bind with ⟨f, fails, rfl, rfl⟩ | ⟨plan, built, onMetadata⟩
  · exact .inl ⟨.planning, f, rfl, .planning chosen prepared fails⟩
  have planned : Planned s places around _ g plan := ⟨all, selected, chosen, prepared, built⟩
  rcases onMetadata.bind with ⟨f, rfl, fails⟩ | ⟨units, d₂, publishes, onCode⟩
  · exact .inl ⟨.metadata, f, rfl, .metadata planned fails⟩
  have published : Published s places around _ g plan d₂ := ⟨planned, units, publishes⟩
  rcases onCode.bind with ⟨f, rfl, fails⟩ | ⟨code, d₃, generates, onClasses⟩
  · exact .inl ⟨.generation, f, rfl, .generation published (generateInto_of_step fails)⟩
  have generates := generateInto_of_step generates
  have same := eq_of_generateInto generates
  subst same
  have generated : Generated s places around _ g plan d₃ := ⟨d₂, published, generates⟩
  rcases onClasses.bind with ⟨f, rfl, fails⟩ | ⟨files, d₄, compiles, onSummary⟩
  · rcases compile_cases generated fails with ⟨stage, _, same, failed⟩ | ⟨⟨_, no⟩, -⟩
    · cases same
      exact .inl ⟨stage, f, rfl, failed⟩
    · cases no
  · obtain ⟨total, done⟩ := onSummary.after (Run.leavesDisk_log _)
    obtain ⟨rfl, rfl⟩ := done.pure
    exact .inr ⟨_, rfl, g, plan, d₃, generated, built, rfl, compiles⟩

/-- A run that is not skipped ends with a failure of the pipeline that a failure of one of its
stages led to, or it has done what its summary says. -/
theorem run_ends {result : Except Failure Summary} (works : s.skip = false)
    (leads : RunsTo (run s places around) d result d') :
    (∃ stage f time, result = .error (.pipeline ("Error building " ++ product) time (some f)) ∧
        Failed s places around d stage f d') ∨
      ∃ summary, result = .ok summary ∧ EndedWith s places around d summary d' := by
  unfold run at leads
  rw [works] at leads
  obtain ⟨start, leads⟩ := leads.after (Run.leavesDisk_log _)
  obtain ⟨_, leads⟩ := leads.after (leavesDisk_announce s)
  rcases leads.tryCatch with ⟨summary, rfl, done⟩ | ⟨f, d₁, fails, leads⟩
  · rcases stages_cases done with ⟨_, _, no, -⟩ | ended
    · cases no
    · exact .inr ended
  · rcases stages_cases fails with ⟨stage, _, same, failed⟩ | ⟨_, no, -⟩
    · cases same
      unfold abandon at leads
      obtain ⟨elapsed, leads⟩ := leads.after (Run.leavesDisk_log _)
      obtain ⟨_, leads⟩ := leads.after (Run.leavesDisk_log _)
      obtain ⟨_, leads⟩ := leads.after (Run.leavesDisk_log _)
      obtain ⟨l, l', ran⟩ := leads
      cases ran
      exact .inl ⟨stage, f, _, rfl, failed⟩
    · cases no

/-- A run that is not skipped ends with a summary, or with a failure of the pipeline that a failure
of one of its stages led to. -/
theorem run_cases {result : Except Failure Summary} (works : s.skip = false)
    (leads : RunsTo (run s places around) d result d') :
    (∃ stage f time, result = .error (.pipeline ("Error building " ++ product) time (some f)) ∧
        Failed s places around d stage f d') ∨
      (∃ summary, result = .ok summary) ∧ Completed s places around d d' := by
  refine (run_ends works leads).imp id ?_
  rintro ⟨summary, same, ended⟩
  exact ⟨⟨summary, same⟩, ended.completed⟩

/-- Code is in the summary of a run only if the run was not skipped. -/
theorem ended_of_generation {summary : Summary} {code : Generation}
    (leads : RunsTo (run s places around) d (.ok summary) d')
    (generation : summary.generation = some code) : EndedWith s places around d summary d' := by
  cases skips : s.skip with
  | true =>
    unfold run at leads
    rw [skips] at leads
    obtain ⟨_, leads⟩ := leads.after (leavesDisk_info _)
    obtain ⟨same, -⟩ := leads.pure
    cases same
    cases generation
  | false =>
    rcases run_ends skips leads with ⟨_, _, _, no, -⟩ | ⟨_, same, ended⟩
    · cases no
    · cases same
      exact ended

end Pipeline

end ModelForge
