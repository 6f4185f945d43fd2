import ModelForge.Pipeline
import ModelForge.Proofs.Event.Brackets
import ModelForge.Proofs.Metadata.Writing
import ModelForge.Proofs.Outcome

/-! # What the parts of a run tell

Each part of a run begins its steps and finishes them if it succeeds. If it fails, the steps around
the failure stay open: the step of the graph (`ModelForge.Pipeline.triple_prepare`), of the metadata
and of one of its units (`ModelForge.Metadata.triple_publish_modular`), of the generated code
(`ModelForge.Code.triple_generateStep`), and of compiling it or of writing what was compiled
(`ModelForge.Code.triple_compileStep`).
-/

namespace ModelForge

open Message (Indented)

open Step (Triple Preserves triple_pure triple_throw preserves_pure preserves_set preserves_throw)

variable {before : List Event} {t t' : Trace}

/-! ## Preparing a graph -/

namespace Preparation

variable {α : Type} {entry : StateM Log α} {message : String} {failed : Failure → Preparing → Prop}
  {l : Log}

/-- The log tells a trace. -/
abbrev TellsTrace (before : List Event) (t : Trace) (p : Preparing) : Prop :=
  p.log.TellsTrace before t

/-- A step that tells nothing of steps. -/
abbrev KeepsTrace (before : List Event) (t : Trace) (x : Prepare α) : Prop :=
  Preserves (TellsTrace before t) (fun _ => True) x

/-- An entry turns the trace of what is told as it turns the trace of a log. -/
theorem triple_log (turns : Log.TurnsTrace before t t' entry) :
    Triple (TellsTrace before t) (fun _ => TellsTrace before t') failed (log entry) :=
  Step.triple_of_run (fun _ => rfl) (fun p _ tells _ => turns p.log tells)
    fun _ _ _ no => nomatch no

/-- An entry that leaves the trace of a log alone tells nothing. -/
theorem keepsTrace_log (turns : Log.TurnsTrace before t t entry) :
    KeepsTrace before t (log entry) :=
  Step.preserves_of_kept fun p tells => turns p.log tells

/-- An indented message tells nothing. -/
theorem keepsTrace_info (indented : Indented message) : KeepsTrace before t (info message) :=
  keepsTrace_log (Log.turnsTrace_info indented.tellsNoStep _)

theorem keepsTrace_apply (event : GraphEvent) : KeepsTrace before t (apply event) := by
  refine Preserves.get_bind fun p tells => ?_
  cases p.graph.apply event with
  | ok g => exact preserves_set tells
  | error f => exact preserves_throw trivial

theorem keepsTrace_hydrate (d : Disk) (cache : Cache) : KeepsTrace before t (hydrate d cache) := by
  refine Preserves.get_bind fun p tells => ?_
  cases cache.hydrate d p.graph with
  | ok outcome => exact (preserves_set tells).bind fun _ => preserves_pure _
  | error f => exact preserves_throw trivial

/-- Compiling tells nothing itself. -/
theorem keepsTrace_phase (step : Compile Nat) : KeepsTrace before t (phase step) := by
  refine Preserves.get_bind fun p tells => ?_
  rcases Graph.runCompile step p.graph with ⟨result, g, messages⟩
  have told : KeepsTrace before t (messages.forM fun m => info ("    " ++ m)) :=
    .forM fun m _ => keepsTrace_info (.append (show Indented "    " from rfl) m)
  dsimp only
  refine (preserves_set ?_).bind fun _ => told.bind fun _ => ?_
  · exact tells
  · cases result with
    | ok n => exact preserves_pure ()
    | error f => exact preserves_throw trivial

/-- Rebuilding tells nothing itself. -/
theorem keepsTrace_rebuild [SetOrder] (d : Disk) : KeepsTrace before t (rebuild d) := by
  refine (keepsTrace_apply _).bind fun _ => Preserves.get_bind fun p tells => ?_
  cases p.graph.reset with
  | ok g =>
    dsimp only
    refine (preserves_set ?_).bind fun _ => (keepsTrace_phase _).bind fun _ => keepsTrace_phase _
    exact tells
  | error f =>
    dsimp only
    exact (preserves_throw trivial).bind fun _ => (keepsTrace_phase _).bind fun _ =>
      keepsTrace_phase _

/-- Reporting a miss tells no step. -/
theorem keepsTrace_reportMiss : KeepsTrace before t reportMiss := by
  refine Preserves.get_bind fun p _ => ?_
  have missed : KeepsTrace before t
      (info "    Initialization from caches failed - compiling from scratch") := keepsTrace_info rfl
  cases p.cache.bind CacheMiss.trace with
  | none => exact missed
  | some trace =>
    have warns : Indented ("    Cache initialization failure: " ++ trace) := .append rfl trace
    exact (keepsTrace_log (Log.turnsTrace_warning warns.tellsNoStep _)).bind fun _ => missed

/-- Filling a graph tells of no step. -/
theorem keepsTrace_fill [SetOrder] (d : Disk) (cache : Cache) :
    KeepsTrace before t (fill d cache) := by
  refine (keepsTrace_hydrate d cache).bind fun hit => ?_
  cases hit with
  | true =>
    exact (keepsTrace_apply _).bind fun _ => (keepsTrace_info rfl).bind fun _ => keepsTrace_apply _
  | false =>
    exact (keepsTrace_apply _).bind fun _ => keepsTrace_reportMiss.bind fun _ =>
      (keepsTrace_rebuild d).bind fun _ => keepsTrace_apply _

/-- A failure to fill a graph is told at most as errors. -/
theorem triple_abandon (start : Nat) (f : Failure) (post : Unit → Preparing → Prop) :
    Triple (TellsTrace before t) post
      (fun _ p => ∃ errors, TellsTrace before { t with errors := errors } p)
      (abandon start f) := by
  have applied : KeepsTrace before t (apply .failed) := keepsTrace_apply _
  have message (time : String) : Indented ("    Error initializing graph (" ++ time ++ ")") :=
    .append (.append rfl time) _
  exact (applied.triple.fails fun _ p tells => ⟨t.errors, tells⟩).bind fun _ =>
    (triple_log (Log.turnsTrace_since start)).bind fun text =>
      (triple_log (Log.turnsTrace_since start)).bind fun elapsed =>
        (triple_log (Log.turnsTrace_error (message _).tellsNoStep _ _ _)).bind fun _ =>
          triple_throw fun p tells => ⟨t.errors + 1, tells⟩

/-- Preparing has passed if it succeeds; if it fails, it is still open and errors may have been
told. -/
theorem triple_prepare [SetOrder] (d : Disk) (cache : Cache) (start : Nat) :
    Triple (TellsTrace before (t.begins stepName))
      (fun _ => TellsTrace before (t.after [(t.opened, stepName)]))
      (fun _ p => ∃ errors, TellsTrace before { t.begins stepName with errors := errors } p)
      (prepare d cache start) :=
  ((keepsTrace_fill d cache).triple.tryCatch fun f => triple_abandon start f _).bind fun _ =>
    (triple_log (Log.turnsTrace_finished t stepName start)).bind fun _ =>
      triple_pure fun _ tells => tells

/-- A graph that is prepared is told as one step; if there is none, the step stays open. -/
theorem tellsTrace_run [SetOrder] (d : Disk) (all : RepositorySet) (selected : List String)
    (cache : Cache) (tells : l.TellsTrace before t) :
    (∀ g, (run d all selected cache l).1 = .ok g →
      (run d all selected cache l).2.2.TellsTrace before (t.after [(t.opened, stepName)])) ∧
    ∀ f, (run d all selected cache l).1 = .error f → ∃ errors,
      (run d all selected cache l).2.2.TellsTrace before
        { t.begins stepName with errors := errors } := by
  have begun := Log.turnsTrace_beginStep stepName l tells
  unfold run
  rcases begins : (Log.beginStep stepName).run l with ⟨start, l₁⟩
  rw [begins] at begun
  dsimp only
  cases all.subset selected with
  | error f =>
    exact ⟨fun g no => (nomatch no), fun f _ => ⟨t.errors, begun⟩⟩
  | ok repositories =>
    obtain ⟨done, fails⟩ := triple_prepare d cache start
      ⟨Graph.new repositories, cache.initial, l₁⟩ begun
    dsimp only
    rcases ran : (prepare d cache start).run.run ⟨Graph.new repositories, cache.initial, l₁⟩ with
      ⟨result, p⟩
    rw [ran] at done fails
    cases result with
    | ok a => exact ⟨fun _ _ => done a p rfl, fun f no => (nomatch no)⟩
    | error f => exact ⟨fun g no => (nomatch no), fun _ _ => fails f p rfl⟩

end Preparation

/-! ## Steps of a run -/

/-- The log of a run tells a trace. -/
abbrev World.TellsTrace (before : List Event) (t : Trace) (w : World) : Prop :=
  w.log.TellsTrace before t

open World (TellsTrace)

namespace Run

variable {α : Type} {entry : StateM Log α} {failed : Failure → World → Prop}

/-- A step that tells nothing of steps. -/
abbrev KeepsTrace (before : List Event) (t : Trace) (x : Run α) : Prop :=
  Preserves (TellsTrace before t) (fun _ => True) x

/-- In a run, an entry turns the trace of what is told as it turns the trace of a log. -/
theorem triple_log (turns : Log.TurnsTrace before t t' entry) :
    Triple (TellsTrace before t) (fun _ => TellsTrace before t') failed (log entry) :=
  Step.triple_of_run (run_log entry) (fun w _ tells _ => turns w.log tells)
    fun _ _ _ no => nomatch no

/-- An entry of the log leaves the disk alone. -/
theorem triple_log_on (P : Disk → Prop) (turns : Log.TurnsTrace before t t' entry) :
    Triple (fun w => P w.disk ∧ w.TellsTrace before t)
      (fun _ w => P w.disk ∧ w.TellsTrace before t') failed (log entry) :=
  Step.triple_of_run (run_log entry) (fun w _ holds _ => ⟨holds.1, turns w.log holds.2⟩)
    fun _ _ _ no => nomatch no

/-- What a step comes to on a disk, beside how it ends. -/
theorem triple_runsTo (P : Disk → Prop) {pre : World → Prop} {post : α → World → Prop} {x : Run α}
    (yields : Triple pre post failed x) : Triple (fun w => P w.disk ∧ pre w)
      (fun a w => (∃ d, P d ∧ RunsTo x d (.ok a) w.disk) ∧ post a w)
      (fun f w => (∃ d, P d ∧ RunsTo x d (.error f) w.disk) ∧ failed f w) x := by
  rintro w ⟨holds, given⟩
  obtain ⟨done, fails⟩ := yields w given
  exact ⟨fun a w' ran => ⟨⟨w.disk, holds, runsTo_of_perform ran⟩, done a w' ran⟩,
    fun f w' ran => ⟨⟨w.disk, holds, runsTo_of_perform ran⟩, fails f w' ran⟩⟩

/-- A step that only logs succeeds and leaves the disk alone. -/
theorem triple_of_leavesDisk {d : Disk} {x : Run α} (quiet : LeavesDisk x)
    (silent : KeepsTrace before t x) :
    Triple (fun w => w.disk = d ∧ w.TellsTrace before t)
      (fun _ w => w.disk = d ∧ w.TellsTrace before t) failed x := by
  refine (triple_runsTo (· = d) silent.triple).weaken (fun _ => id) ?_ ?_
  · rintro _ w ⟨⟨d₁, rfl, leads⟩, tells⟩
    exact ⟨(quiet _ _ _ leads).1, tells⟩
  · rintro f w ⟨⟨d₁, rfl, leads⟩, -⟩
    obtain ⟨-, _, no⟩ := quiet _ _ _ leads
    cases no

/-- A given result is taken or thrown, and nothing else happens. -/
theorem triple_orThrow {pre : World → Prop} (result : Except Failure α) :
    Triple pre (fun a w => result = .ok a ∧ pre w) (fun f w => result = .error f ∧ pre w)
      (orThrow result) :=
  Step.triple_of_run (run_orThrow result) (fun _ _ holds done => ⟨done, holds⟩)
    fun _ _ holds fails => ⟨fails, holds⟩

theorem keepsTrace_orThrow (result : Except Failure α) : KeepsTrace before t (orThrow result) := by
  refine Step.preserves_of_kept fun w tells => ?_
  rw [run_orThrow]
  exact tells

/-- Actions on files tell nothing. -/
theorem keepsTrace_files (action : Files.Action α) : KeepsTrace before t (files action) := by
  refine Step.preserves_of_kept fun w tells => ?_
  rw [run_files]
  exact tells

end Run

/-! ## Metadata -/

namespace Metadata

open Run (KeepsTrace)

variable {g : Graph} {u : OutputUnit} {destination : Path} {P : Disk → Prop}

/-- The name of the step of a unit. -/
def unitStep (u : OutputUnit) : String := stepName ++ " for " ++ u.name

/-- The steps of units, inside that of the metadata. -/
def unitSteps (t : Trace) (units : List OutputUnit) : List (List String × String) :=
  units.map fun u => (stepName :: t.opened, unitStep u)

theorem unitSteps_append (t : Trace) (units others : List OutputUnit) :
    unitSteps t (units ++ others) = unitSteps t units ++ unitSteps t others := List.map_append

/-- One more unit was written. -/
theorem Written.concat {d d₁ d₂ : Disk} {units : List OutputUnit}
    (written : Written g destination d units d₁)
    (more : writeUnit g destination u d₁ = (.ok (), d₂)) :
    Written g destination d (units ++ [u]) d₂ := by
  induction written with
  | none d => exact .more more (.none d₂)
  | more first _ ih => exact .more first (ih more)

/-- Publishing a unit writes it and tells nothing. -/
theorem triple_publishNamed :
    Triple (fun w => P w.disk ∧ w.TellsTrace before t)
      (fun _ w => (∃ d, P d ∧ writeUnit g destination u d = (.ok (), w.disk)) ∧
        w.TellsTrace before t)
      (fun f w => (∃ d f', P d ∧ writeUnit g destination u d = (.error f', w.disk) ∧
        f = reported u f') ∧ w.TellsTrace before t)
      (publishNamed g u destination) := by
  refine Step.triple_of_run (run_publishNamed g u destination) ?_ ?_
  · rintro w ⟨⟩ ⟨holds, tells⟩ done
    refine ⟨⟨w.disk, holds, ?_⟩, tells⟩
    rcases wrote : writeUnit g destination u w.disk with ⟨result, d⟩
    rw [wrote] at done
    cases result with
    | ok _ => rfl
    | error f => cases done
  · rintro w f ⟨holds, tells⟩ fails
    rcases wrote : writeUnit g destination u w.disk with ⟨result, d⟩
    rw [wrote] at fails
    cases result with
    | ok _ => cases fails
    | error f' =>
      cases fails
      exact ⟨⟨w.disk, f', holds, wrote, rfl⟩, tells⟩

/-- A unit of a modular plan is a step, which stays open if the unit cannot be written. -/
theorem triple_publishStep :
    Triple (fun w => P w.disk ∧ w.TellsTrace before t)
      (fun _ w => (∃ d, P d ∧ writeUnit g destination u d = (.ok (), w.disk)) ∧
        w.TellsTrace before (t.after [(t.opened, unitStep u)]))
      (fun f w => (∃ d f', P d ∧ writeUnit g destination u d = (.error f', w.disk) ∧
        f = reported u f') ∧ w.TellsTrace before (t.begins (unitStep u)))
      (publishStep g true destination u) :=
  (Run.triple_log_on P (Log.turnsTrace_beginStep (unitStep u))).bind fun start =>
    triple_publishNamed.bind fun _ =>
      (Run.triple_log_on (fun d' => ∃ d, P d ∧ writeUnit g destination u d = (.ok (), d'))
        (Log.turnsTrace_finished t (unitStep u) start)).bind fun _ =>
      triple_pure fun _ holds => holds

/-- Metadata of a plan that is not modular is one step. -/
theorem triple_publish_whole {plan : Plan} (whole : plan.isModular = false) :
    Triple (TellsTrace before t) (fun _ => TellsTrace before (t.after [(t.opened, stepName)]))
      (fun _ => TellsTrace before (t.begins stepName)) (publish g plan destination) := by
  unfold publish
  rw [whole]
  have step (u : OutputUnit) : KeepsTrace before (t.begins stepName)
      (publishStep g false destination u) := by
    have named : KeepsTrace before (t.begins stepName) (publishNamed g u destination) := by
      refine Step.preserves_of_kept fun w tells => ?_
      rw [run_publishNamed]
      exact tells
    exact named.bind fun _ => preserves_pure _
  exact (Run.triple_log (Log.turnsTrace_beginStep stepName)).bind fun start =>
    (Preserves.mapM fun u _ => step u).triple.bind fun _ =>
      (Run.triple_log (Log.turnsTrace_finished t stepName start)).bind fun _ =>
        triple_pure fun _ tells => tells

/-- Metadata of a modular plan is a step with one step inside for each unit. At a unit that cannot
be written the steps of those before it have passed, and its own one is open. -/
theorem triple_publish_modular {plan : Plan} {d : Disk} (modular : plan.isModular = true) :
    Triple (fun w => w.disk = d ∧ w.TellsTrace before t)
      (fun _ w => w.TellsTrace before (t.after ((t.opened, stepName) :: unitSteps t plan.units)))
      (fun f w => ∃ done u others, plan.units = done ++ u :: others ∧
        (∃ d₁ f', Written g destination d done d₁ ∧
          writeUnit g destination u d₁ = (.error f', w.disk) ∧ f = reported u f') ∧
        w.TellsTrace before (((t.begins stepName).after (unitSteps t done)).begins (unitStep u)))
      (publish g plan destination) := by
  unfold publish
  rw [modular]
  -- Before each unit those before it are written, and their steps have passed.
  refine ((Run.triple_log_on (· = d) (Log.turnsTrace_beginStep stepName)).weaken (fun _ => id) ?_
    fun _ _ => id).bind fun start => (Triple.mapM (fun done w =>
      Written g destination d done w.disk ∧
        w.TellsTrace before ((t.begins stepName).after (unitSteps t done))) _ plan.units
      fun done u => triple_publishStep.weaken (fun _ => id) ?_ fun _ _ => id).bind fun _ => ?_
  · rintro _ w ⟨rfl, tells⟩
    refine ⟨.none _, ?_⟩
    change w.TellsTrace before ((t.begins stepName).after [])
    rwa [Trace.after_nil]
  · rintro _ w ⟨⟨d₁, written, wrote⟩, tells⟩
    refine ⟨written.concat wrote, ?_⟩
    rw [Trace.after_after] at tells
    rwa [unitSteps_append]
  · refine ((Run.triple_log
      (Log.turnsTrace_passed t stepName (unitSteps t plan.units) start)).weaken
      (fun _ holds => holds.2) (fun _ _ => id) fun _ _ => id).bind fun _ =>
        triple_pure fun _ tells => tells

end Metadata

/-! ## Code -/

namespace Code

open Run (KeepsTrace)

variable {g : Graph} {plan : Plan} {external : ExternalPackage} {directory : Option Path}
  {code : Generation} {classes : Path} {modules : List CompiledModule}

/-- Generating code tells nothing itself. -/
theorem keepsTrace_generateInto : KeepsTrace before t (generateInto g plan external directory) := by
  refine (Run.keepsTrace_orThrow _).bind fun code => ?_
  cases directory with
  | none => exact preserves_pure code
  | some directory =>
    have written : KeepsTrace before t (writeSources code directory) := by
      refine (Preserves.mapM fun group _ => Preserves.mapM fun m _ => ?_).bind fun _ =>
        preserves_pure _
      exact (Run.keepsTrace_files _).bind fun _ => preserves_pure _
    exact written.bind fun _ => preserves_pure code

/-- The step of generating has passed if it succeeds, and is open if it fails. -/
theorem triple_generateStep :
    Triple (TellsTrace before t) (fun _ => TellsTrace before (t.after [(t.opened, generationStep)]))
      (fun _ => TellsTrace before (t.begins generationStep))
      (generateStep g plan external directory) := by
  have message (modules groups : String) : Indented (toString "    Generated " ++ modules ++
      toString " modules in " ++ groups ++ toString " group(s)") :=
    .append (.append (.append (.append rfl modules) _) groups) _
  exact (Run.triple_log (Log.turnsTrace_beginStep generationStep)).bind fun start =>
    keepsTrace_generateInto.triple.bind fun code =>
      (Run.triple_log (Log.turnsTrace_info (message _ _).tellsNoStep _)).bind fun _ =>
        (Run.triple_log (Log.turnsTrace_finished t generationStep start)).bind fun _ =>
          triple_pure fun _ tells => tells

/-- Code that compiles is told as two steps. The first one stays open if it does not compile, and
the second one if something cannot be written. -/
theorem triple_compileStep [Compiler] :
    Triple (TellsTrace before t)
      (fun _ => TellsTrace before
        (t.after [(t.opened, compileStepName), (t.opened, writeStepName)]))
      (fun f w => (compile code = .error f ∧ w.TellsTrace before (t.begins compileStepName)) ∨
        (∃ modules, compile code = .ok modules) ∧
          w.TellsTrace before ((t.after [(t.opened, compileStepName)]).begins writeStepName))
      (compileStep code classes) := by
  have message (count directory : String) : Indented (toString "    Wrote " ++ count ++
      toString " compiled modules to " ++ directory) :=
    .append (.append (.append rfl count) _) directory
  have written {modules : List CompiledModule} :
      KeepsTrace before ((t.after [(t.opened, compileStepName)]).begins writeStepName)
        (writeModules classes modules) :=
    .mapM fun m _ => (Run.keepsTrace_files _).bind fun _ => preserves_pure _
  refine (Run.triple_log (Log.turnsTrace_beginStep compileStepName)).bind fun start =>
    ((Run.triple_orThrow _).fails fun f w fails => .inl fails).bind fun modules =>
      Step.triple_of_imp fun compiled => ?_
  refine (Run.triple_log (Log.turnsTrace_finished t compileStepName start)).bind fun _ =>
    (Run.triple_log (Log.turnsTrace_beginStep writeStepName)).bind fun start =>
      (written.triple.fails fun f w tells => .inr ⟨⟨modules, compiled⟩, tells⟩).bind fun _ =>
        (Run.triple_log (Log.turnsTrace_info (message _ _).tellsNoStep _)).bind fun _ =>
          (Run.triple_log (Log.turnsTrace_finished _ writeStepName start)).bind fun _ =>
            triple_pure fun _ tells => ?_
  rwa [Trace.after_after] at tells

end Code

/-! ## Choosing and preparing -/

namespace Pipeline

variable {all : RepositorySet} {selected : List String} {cache : Cache}

/-- Preparing a graph is a step of a run. -/
theorem triple_prepare [SetOrder] :
    Triple (TellsTrace before t)
      (fun _ => TellsTrace before (t.after [(t.opened, Preparation.stepName)]))
      (fun _ w => ∃ errors,
        w.TellsTrace before { t.begins Preparation.stepName with errors := errors })
      (prepare all selected cache) := by
  intro w tells
  obtain ⟨done, fails⟩ := Preparation.tellsTrace_run w.disk all selected cache tells
  unfold prepare
  rw [Step.run_bind_of_ok (Step.run_get w)]
  rcases outcome : Preparation.run w.disk all selected cache w.log with ⟨result, miss, l⟩
  rw [outcome] at done fails
  dsimp only
  rw [Step.run_bind_of_ok (Step.run_set _ _), Run.run_orThrow]
  constructor
  · intro g w' ended
    cases ended
    exact done g rfl
  · intro f w' ended
    cases ended
    exact fails f rfl

end Pipeline

end ModelForge
