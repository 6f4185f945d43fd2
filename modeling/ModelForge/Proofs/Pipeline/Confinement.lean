import ModelForge.Proofs.Code.Paths
import ModelForge.Proofs.Graph.Formed
import ModelForge.Proofs.Metadata.Isolation
import ModelForge.Proofs.Pipeline.Stages
import ModelForge.Proofs.Repository.Selected

/-! # A run is confined to its output directories

A run puts its results into the directories of metadata, of generated code and of compiled modules,
as far as they are in use (`ModelForge.Pipeline.outputs`). Every operation of a run on files and
directories is below one of them or makes a missing directory on the way to one, the operations on
files that it makes only for a while included, whatever is in the source files and in the file of
the cache (`ModelForge.Pipeline.run_confined`): the names that paths are made of, those of
repositories, of groups, of modules and of the external package, never lead out of a directory.
-/

namespace ModelForge

namespace Run

open Disk (OnlyBelow)

variable {α : Type} {d₀ : Disk} {roots : List Path} {x : Run α}

/-- The steps of a run: writing to the log, and actions on files that are confined to some
directories. -/
inductive Operation (d₀ : Disk) (roots : List Path) : (α : Type) → Run α → Prop where
  | log {α : Type} (entry : StateM Log α) : Operation d₀ roots α (log entry)
  | files {α : Type} {action : Files.Action α} (confined : Files.Action.Confined d₀ roots action) :
      Operation d₀ roots α (files action)

/-- From every disk on which relative paths start where they do on a given one, all that a run does
to files and directories is confined to some directories. -/
abbrev Confined (d₀ : Disk) (roots : List Path) (x : Run α) : Prop :=
  Step.Program (Operation d₀ roots) (fun w => w.disk.here = d₀.here) x

/-- A confined run leaves the rest as it was. -/
theorem Confined.preserves (confined : Confined d₀ roots x) :
    Step.Preserves (fun w => OnlyBelow roots d₀ w.disk) (fun _ => True) x := by
  refine Step.Program.preserves confined (fun w only => only.here) fun α x operation => ?_
  cases operation with
  | log entry => exact Step.preserves_of_kept fun w only => only
  | files action =>
    refine Step.preserves_of_kept fun w only => ?_
    rw [run_files]
    exact (action.preserves w.disk only).1

theorem confined_log (entry : StateM Log α) : Confined d₀ roots (log entry) := .step (.log entry)

/-- An action confined to its roots is so inside a run. -/
theorem confined_files {action : Files.Action α}
    (confined : Files.Action.Confined d₀ roots action) : Confined d₀ roots (files action) :=
  .step (.files confined)

theorem confined_orThrow (result : Except Failure α) : Confined d₀ roots (orThrow result) := by
  cases result with
  | ok a => exact .pure a
  | error f => exact .throw f

/-- What a run took from a result is what the result held. -/
theorem eq_of_run_orThrow {result : Except Failure α} {w w' : World} {a : α}
    (ran : (orThrow result).run.run w = (.ok a, w')) : result = .ok a := by
  rw [run_orThrow] at ran
  exact (Prod.mk.inj ran).1

end Run

open Disk (beneath inside)

open Run (Confined confined_log confined_files confined_orThrow)

variable {d₀ : Disk} {roots : List Path} {g : Graph} {plan : Plan} {u : OutputUnit}
  {destination directory : Path} {name group : String}

/-- A unit whose directory is named as a repository may be, if it has one of its own. -/
structure OutputUnit.Legal (u : OutputUnit) : Prop where
  name : isRepositoryName u.name = true
  repository : ∀ name, u.repository = some name → isRepositoryName name = true

/-- The units of a plan are named after repositories. -/
theorem Plan.legal_of_build {type : GenerationType} {selected : List String}
    (built : build type selected = .ok plan)
    (named : ∀ name ∈ selected, isRepositoryName name = true) : ∀ u ∈ plan.units, u.Legal := by
  rw [units_of_build built]
  intro u member
  cases type with
  | monolithic =>
    rw [List.mem_singleton.mp member]
    exact ⟨by decide, fun name none => (nomatch none)⟩
  | modular =>
    obtain ⟨name, chosen, rfl⟩ := List.mem_map.mp member
    refine ⟨named name chosen, fun other same => ?_⟩
    cases same
    exact named name chosen

/-! ## Metadata -/

namespace Metadata

/-- The directory of a unit is the destination or one directory below it. -/
theorem exists_unitDirectory (legal : u.Legal) (destination : Path) :
    ∃ names, (∀ name ∈ names, isRepositoryName name = true) ∧
      unitDirectory destination u = beneath destination names := by
  unfold unitDirectory
  cases repository : u.repository with
  | none =>
    exact ⟨[], fun _ none => absurd none List.not_mem_nil, (Disk.beneath_nil destination).symm⟩
  | some name =>
    have proper := legal.repository name repository
    exact ⟨[name], List.forall_mem_singleton.mpr proper, unitDirectory_unitOf proper destination⟩

/-- Publishing a unit is confined to the destination. -/
theorem confined_publishNamed (member : destination ∈ roots) (legal : u.Legal) :
    Confined d₀ roots (publishNamed g u destination) := by
  refine .tryCatch ?_ fun f => ?_
  · refine (confined_orThrow _).bind fun _ files _ _ _ => confined_files ?_
    obtain ⟨names, proper, same⟩ := exists_unitDirectory legal destination
    have plain : ".." ∉ names := fun inside =>
      parent_ne_of_isRepositoryName (proper ".." inside) rfl
    rw [same]
    exact Files.Action.confined_publish member plain fun f inside =>
      ne_parent_of_fileName (name_mem_fileNames inside)
  · split
    · exact .throw _
    · exact .throw _

/-- The step that publishes a unit and tells it is confined to the destination. -/
theorem confined_publishStep (modular : Bool) (member : destination ∈ roots) (legal : u.Legal) :
    Confined d₀ roots (publishStep g modular destination u) := by
  unfold publishStep
  split
  · refine (confined_log _).bind fun _ _ _ _ _ => ?_
    refine (confined_publishNamed member legal).bind fun _ _ _ _ _ => ?_
    exact (confined_log _).map _
  · exact (confined_publishNamed member legal).map _

/-- Publishing the metadata of a plan is confined to its destination. -/
theorem confined_publish (member : destination ∈ roots) (legal : ∀ u ∈ plan.units, u.Legal) :
    Confined d₀ roots (publish g plan destination) := by
  refine (confined_log _).bind fun _ _ _ _ _ => ?_
  refine Step.Program.bind (.mapM fun u inside => ?_) fun _ _ _ _ _ => ?_
  · exact confined_publishStep _ member (legal u inside)
  · exact (confined_log _).map _

end Metadata

/-! ## Code -/

namespace Code

variable {external : ExternalPackage} {code : Generation} {modules : List CompiledModule}

/-- The groups of generated code and their modules have names that lead downward. -/
theorem flat_groups (formed : ∀ e ∈ g.elements, isElementPath e.path = true)
    (legal : ∀ u ∈ plan.units, u.Legal) :
    ∀ group ∈ (ofPlan g plan external).groups,
      isRepositoryName group.1 = true ∧ ∀ m ∈ group.2, Flat m.1 := by
  intro group known
  obtain ⟨u, member, rfl⟩ := mem_groups known
  refine ⟨(legal u member).name, fun m own => flat_of_mem_modulesOf (fun e inside => ?_) own⟩
  exact formed e (Metadata.mem_elementsOf inside)

/-- Writing a source file is confined to its directory. -/
theorem confined_writeSource (member : directory ∈ roots) (legal : isRepositoryName group = true)
    (flat : Flat name) (text : String) :
    Confined d₀ roots (writeSource (sourcePath directory group name) text) := by
  obtain ⟨names, plain, same⟩ := exists_sourcePath legal flat directory
  have plain_above : ".." ∉ names := fun inside => plain (List.mem_append_left _ inside)
  unfold writeSource
  rw [same, Disk.parent_beneath]
  refine (confined_files ?_).map _
  refine (Files.Action.confined_makeDirectories member plain_above).bind fun _ _ _ _ _ => ?_
  exact .step (.write (Disk.below_beneath member plain (by simp) d₀) _)

/-- Generating code is confined to the directory of generated code, if it is written at all. -/
theorem confined_generateInto (formed : ∀ e ∈ g.elements, isElementPath e.path = true)
    (legal : ∀ u ∈ plan.units, u.Legal) {directory : Option Path}
    (member : ∀ p, directory = some p → p ∈ roots) :
    Confined d₀ roots (generateInto g plan external directory) := by
  unfold generateInto
  refine (confined_orThrow _).bind fun _ code _ _ ran => ?_
  have same := Pipeline.eq_of_generate (Run.eq_of_run_orThrow ran)
  subst same
  cases directory with
  | none => exact .pure _
  | some directory =>
    refine Step.Program.map (.map (.mapM fun group known => ?_) _) _
    obtain ⟨name, modules⟩ := group
    obtain ⟨named, flat⟩ := flat_groups formed legal _ known
    exact .mapM fun m own => confined_writeSource (member _ rfl) named (flat m own) m.2

/-- Generating code is confined to the directory it is given. -/
theorem confined_generateStep (formed : ∀ e ∈ g.elements, isElementPath e.path = true)
    (legal : ∀ u ∈ plan.units, u.Legal) {directory : Option Path}
    (member : ∀ p, directory = some p → p ∈ roots) :
    Confined d₀ roots (generateStep g plan external directory) := by
  refine (confined_log _).bind fun _ _ _ _ _ => ?_
  refine (confined_generateInto formed legal member).bind fun _ code _ _ _ => ?_
  refine (confined_log _).bind fun _ _ _ _ _ => ?_
  exact (confined_log _).map _

/-- Writing compiled modules is confined to their directory. -/
theorem confined_writeModules (resolved : ".." ∉ d₀.here) (member : directory ∈ roots)
    (flat : ∀ m ∈ modules, Flat m.name) : Confined d₀ roots (writeModules directory modules) := by
  refine .mapM fun m inside => ?_
  obtain ⟨names, plain, same⟩ := exists_artifactPath (flat m inside) directory
  unfold writeModule
  dsimp only
  rw [same]
  exact (confined_files (Files.Action.confined_replaceFile resolved member plain _)).map _

/-- Compiling is confined to the directory of compiled modules. -/
theorem confined_compileStep [Compiler] (resolved : ".." ∉ d₀.here) (member : directory ∈ roots)
    (formed : ∀ e ∈ g.elements, isElementPath e.path = true) (legal : ∀ u ∈ plan.units, u.Legal)
    (proper : ∀ package, external = some package → Flat package) :
    Confined d₀ roots (compileStep (ofPlan g plan external) directory) := by
  refine (confined_log _).bind fun _ _ _ _ _ => ?_
  refine (confined_orThrow _).bind fun _ modules _ _ ran => ?_
  have flat : ∀ m ∈ modules, Flat m.name := by
    refine flat_of_compile (Run.eq_of_run_orThrow ran) (fun group known => ?_) proper
    obtain ⟨named, flat⟩ := flat_groups formed legal group known
    exact ⟨flat_of_isRepositoryName named, flat⟩
  refine (confined_log _).bind fun _ _ _ _ _ => ?_
  refine (confined_log _).bind fun _ _ _ _ _ => ?_
  refine (confined_writeModules resolved member flat).bind fun _ _ _ _ _ => ?_
  refine (confined_log _).bind fun _ _ _ _ _ => ?_
  exact (confined_log _).map _

end Code

/-! ## Runs -/

namespace Pipeline

variable {s : Settings} {places : Discovery} {around : Surroundings} {d : Disk}
  {all : RepositorySet} {selected : List String} {cache : Cache}

/-- The directories that a run puts its results into: those of metadata and of generated code, if
there are any, and that of compiled modules, unless compiling is prevented. -/
def outputs (s : Settings) : List Path :=
  s.layout.metadata.toList ++ s.layout.sources.toList ++
    if s.preventCompilation then [] else [s.layout.classes]

/-- Chosen repositories have legal names. -/
theorem legal_of_chosen [SetOrder] (chosen : Chosen s places around d all selected) :
    ∀ name ∈ selected, isRepositoryName name = true := by
  intro name member
  have known := RepositorySet.mem_names_of_select chosen.selects member
  obtain ⟨r, inside, rfl⟩ := RepositorySet.mem_names.mp known
  exact r.legal

/-- The elements of a prepared graph have paths of the form of paths. -/
theorem formed_of_prepared [SetOrder] (prepared : PreparesTo d all selected cache (.ok g)) :
    ∀ e ∈ g.elements, isElementPath e.path = true := by
  obtain ⟨l, done⟩ := prepared
  rcases outcome : Preparation.run d all selected cache l with ⟨result, miss, l'⟩
  rw [outcome] at done
  cases done
  exact Graph.formed_of_run outcome

theorem confined_info (message : String) : Confined d₀ roots (info message) := confined_log _

theorem confined_announce (s : Settings) : Confined d₀ roots (announce s) := by
  refine (confined_info _).bind fun _ _ _ _ _ => ?_
  refine (confined_info _).bind fun _ _ _ _ _ => ?_
  refine (confined_info _).bind fun _ _ _ _ _ => ?_
  refine (confined_info _).bind fun _ _ _ _ _ => ?_
  exact (confined_info _).bind fun _ _ _ _ _ => confined_info _

theorem confined_announceSources (sources : Option Path) : Confined d₀ roots (match sources with
    | none => return ()
    | some directory => info s!"  Codegen output directory: {directory}") := by
  cases sources with
  | none => exact .pure ()
  | some directory => exact confined_info _

theorem confined_announceLayout (s : Settings) : Confined d₀ roots (announceLayout s) := by
  unfold announceLayout
  have sources : Confined d₀ roots _ := confined_announceSources s.layout.sources
  cases s.layout.metadata with
  | none =>
    exact (confined_info _).bind fun _ _ _ _ _ => (confined_info _).bind fun _ _ _ _ _ => sources
  | some directory =>
    dsimp only
    split
    · exact (confined_info _).bind fun _ _ _ _ _ => sources
    · exact (confined_info _).bind fun _ _ _ _ _ => (confined_info _).bind fun _ _ _ _ _ => sources

/-- Choosing repositories writes nothing. -/
theorem confined_choose [SetOrder] (s : Settings) (places : Discovery) (around : Surroundings) :
    Confined d₀ roots (choose s places around) := by
  refine Step.Program.get.bind fun _ w _ _ _ => ?_
  refine (confined_orThrow _).bind fun _ all _ _ _ => ?_
  refine (confined_info _).bind fun _ _ _ _ _ => ?_
  refine (confined_orThrow _).bind fun _ selected _ _ _ => ?_
  exact (confined_info _).map _

/-- What a run has chosen is a choice. -/
theorem chosen_of_run [SetOrder] [Code.Compiler] {w w' : World}
    (ran : (choose s places around).run.run w = (.ok (all, selected), w')) :
    Chosen s places around w.disk all selected := by
  have leads :
      Run.RunsTo (choose s places around >>= pure) w.disk (.ok (all, selected)) w'.disk := by
    rw [bind_pure]
    exact Run.runsTo_of_perform ran
  rcases choose_bind leads with ⟨_, _, no, -⟩ | ⟨all', selected', chosen, done⟩
  · cases no
  · obtain ⟨same, -⟩ := done.pure
    cases same
    exact chosen

/-- Preparing a graph reads the disk and writes to the log. -/
theorem prepare_eq [SetOrder] (all : RepositorySet) (selected : List String) (cache : Cache) :
    prepare all selected cache = (do
      let w ← get
      let result ← Run.log fun l =>
        ((Preparation.run w.disk all selected cache l).1,
          (Preparation.run w.disk all selected cache l).2.2)
      Run.orThrow result) := rfl

/-- Preparing a graph writes nothing. -/
theorem confined_prepare [SetOrder] (all : RepositorySet) (selected : List String) (cache : Cache) :
    Confined d₀ roots (prepare all selected cache) := by
  rw [prepare_eq]
  refine Step.Program.get.bind fun _ w _ _ _ => ?_
  exact (confined_log _).bind fun _ result _ _ _ => confined_orThrow result

/-- The directory of metadata is one of the outputs. -/
theorem metadata_mem_outputs {directory : Path} (given : s.layout.metadata = some directory) :
    directory ∈ outputs s := by
  unfold outputs
  simp [given]

/-- The directory of source files is one of the outputs. -/
theorem sources_mem_outputs {directory : Path} (given : s.layout.sources = some directory) :
    directory ∈ outputs s := by
  unfold outputs
  simp [given]

/-- The directory of compiled modules is one of the outputs, if there are any. -/
theorem classes_mem_outputs (compiles : s.preventCompilation = false) : s.classes ∈ outputs s := by
  unfold outputs
  simp [compiles, Settings.layout]

/-- Publishing metadata is confined to the outputs. -/
theorem confined_publish (legal : ∀ u ∈ plan.units, u.Legal) :
    Confined d₀ (outputs s) (publish g plan s.layout.metadata) := by
  cases given : s.layout.metadata with
  | none => exact .pure []
  | some directory => exact Metadata.confined_publish (metadata_mem_outputs given) legal

/-- Compiling code is confined to the outputs. -/
theorem confined_compile [Code.Compiler] (resolved : ".." ∉ d₀.here)
    (accepted : s.checkExternal = .valid s) (formed : ∀ e ∈ g.elements, isElementPath e.path = true)
    (legal : ∀ u ∈ plan.units, u.Legal) :
    Confined d₀ (outputs s) (compile s (Code.ofPlan g plan s.external)) := by
  unfold compile
  split
  · exact (confined_info _).map _
  · next compiles =>
    have member := classes_mem_outputs (Bool.eq_false_iff.mpr compiles)
    refine Code.confined_compileStep resolved member formed legal fun package given => ?_
    exact Code.flat_of_isExternalPackage (Code.external_eq_some accepted given)

/-- All stages of a run are confined to its output directories. -/
theorem confined_stages [Code.Compiler] [SetOrder] (resolved : ".." ∉ d₀.here)
    (accepted : s.checkExternal = .valid s)
    (start : Nat) : Confined d₀ (outputs s) (stages s places around start) := by
  unfold stages
  refine (confined_choose s places around).bind fun w choice w' _ chooses => ?_
  obtain ⟨all, selected⟩ := choice
  have named := legal_of_chosen (chosen_of_run chooses)
  refine (confined_announceLayout s).bind fun _ _ _ _ _ => ?_
  refine (confined_prepare all selected _).bind fun w g w' _ prepares => ?_
  have formed := formed_of_prepared (preparesTo_of_runsTo (Run.runsTo_of_perform prepares)).2
  refine (confined_orThrow _).bind fun w plan w' _ builds => ?_
  have legal := Plan.legal_of_build (Run.eq_of_run_orThrow builds) named
  refine (confined_publish legal).bind fun _ units _ _ _ => ?_
  have member : ∀ p, s.layout.sources = some p → p ∈ outputs s := fun p => sources_mem_outputs
  refine (Code.confined_generateStep formed legal member).bind fun w code w' _ generates => ?_
  have same := eq_of_generateInto (generateInto_of_step (Run.runsTo_of_perform generates))
  subst same
  refine (confined_compile resolved accepted formed legal).bind fun _ files _ _ _ => ?_
  exact (confined_log _).map _

theorem confined_abandon {α : Type} (start : Nat) (f : Failure) :
    Confined d₀ roots (abandon start f : Run α) := by
  refine (confined_log _).bind fun _ _ _ _ _ => ?_
  refine (confined_log _).bind fun _ _ _ _ _ => ?_
  exact (confined_log _).bind fun _ _ _ _ _ => .throw _

/-- Whatever a disk holds, sources and cache included, a run with accepted settings that starts from
it is confined to its output directories: each operation on files and directories, also on those
that are made only for a while, names a place below one of them, or makes a missing directory on the
way to one. So at the end nothing else has changed, whether the run succeeds or fails. The working
directory is a location without steps back, as temporary files are named from the root. -/
theorem run_confined [Code.Compiler] [SetOrder] (s : Settings) (places : Discovery)
    (around : Surroundings) (accepted : s.checkExternal = .valid s) (resolved : ".." ∉ d.here) :
    Confined d (outputs s) (run s places around) ∧
      ∀ l result w', Run.perform (run s places around) ⟨d, l⟩ = (result, w') →
        Disk.OnlyBelow (outputs s) d w'.disk := by
  have confined : Confined d (outputs s) (run s places around) := by
    unfold run
    split
    · exact (confined_info _).map _
    · refine (confined_log _).bind fun _ start _ _ _ => ?_
      refine (confined_announce s).bind fun _ _ _ _ _ => ?_
      exact .tryCatch (confined_stages resolved accepted start) fun f => confined_abandon start f
  refine ⟨confined, fun l result w' ran => ?_⟩
  have kept := (confined.preserves ⟨d, l⟩ (Disk.OnlyBelow.refl (outputs s) d)).1
  rwa [show (run s places around).run.run ⟨d, l⟩ = _ from ran] at kept

open Sample (bare reservedDisk reservedSettings)

attribute [local instance] SetOrder.asWritten Code.Compiler.ofFaults in
/-- A run that publishes metadata and compiles leaves its source files alone, however it ends. -/
theorem run_confined_sample :
    Confined reservedDisk (outputs reservedSettings) (run reservedSettings ⟨false, false⟩ bare) ∧
      ∀ l result w', Run.perform (run reservedSettings ⟨false, false⟩ bare) ⟨reservedDisk, l⟩ =
        (result, w') → w'.disk.entry? ["class", "a.pure.yaml"] =
          reservedDisk.entry? ["class", "a.pure.yaml"] := by
  have accepted : reservedSettings.checkExternal = .valid reservedSettings := rfl
  have resolved : ".." ∉ reservedDisk.here := List.not_mem_nil
  obtain ⟨confined, only⟩ :=
    run_confined reservedSettings ⟨false, false⟩ bare accepted resolved
  refine ⟨confined, fun l result w' ran => ?_⟩
  have outside : ¬reservedDisk.Below (outputs reservedSettings) ["class", "a.pure.yaml"] := by
    intro ⟨root, member, name, rest, same⟩
    have directories : outputs reservedSettings =
      [.ofParts ["target", "metadata-distributed"], .ofParts ["classes"]] := rfl
    rw [directories, List.mem_cons, List.mem_singleton] at member
    rcases member with metadata | classes
    · subst metadata
      exact absurd (List.cons.inj same).1 (by decide)
    · subst classes
      exact absurd (List.cons.inj same).1 (by decide)
  rcases (only l result w' ran).elsewhere _ outside with kept | ⟨-, missing, -⟩
  · exact kept
  · cases missing

end Pipeline

end ModelForge
