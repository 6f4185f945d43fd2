import ModelForge.Pipeline
import ModelForge.Proofs.Commuting
import ModelForge.Proofs.Run

/-! # Earlier events make no difference

A log only grows, and nothing that a run does depends on the events that are in it already. So every
step of a run commutes with putting further events in front of the log, up to all its stages
(`ModelForge.Pipeline.commutes_stages`).
-/

namespace ModelForge

open Step (Commutes commutes_get_bind commutes_pure commutes_throw)

variable {before : List Event}

namespace Log

variable {α β : Type} {entry : StateM Log α} {next : α → StateM Log β}

/-- A log with further events in front of its own. -/
def behind (before : List Event) (l : Log) : Log := { l with events := before ++ l.events }

/-- An entry is made without regard to the events before it. -/
def IgnoresEarlier (before : List Event) (entry : StateM Log α) : Prop :=
  ∀ l, entry.run (l.behind before) = ((entry.run l).1, (entry.run l).2.behind before)

/-- Entries one after the other ignore what was logged before if each of them does. -/
theorem IgnoresEarlier.bind (first : IgnoresEarlier before entry)
    (rest : ∀ a, IgnoresEarlier before (next a)) :
    IgnoresEarlier before (entry >>= next) := by
  intro l
  change (next (entry.run (l.behind before)).1).run (entry.run (l.behind before)).2 = _
  rw [first l]
  exact rest _ _

theorem ignoresEarlier_pure (a : α) : IgnoresEarlier before (pure a) := fun _ => rfl

/-- An event is added whatever was logged before. -/
theorem ignoresEarlier_add (e : Event) : IgnoresEarlier before (add e) := by
  intro l
  refine Prod.ext rfl ?_
  change (⟨(before ++ l.events) ++ [e], l.now⟩ : Log) = ⟨before ++ (l.events ++ [e]), l.now⟩
  rw [List.append_assoc]

theorem ignoresEarlier_clock : IgnoresEarlier before clock := fun _ => rfl

theorem ignoresEarlier_since (start : Nat) : IgnoresEarlier before (since start) :=
  ignoresEarlier_clock.bind fun _ => ignoresEarlier_pure _

theorem ignoresEarlier_beginStep (step : String) : IgnoresEarlier before (beginStep step) :=
  (ignoresEarlier_add _).bind fun _ => ignoresEarlier_clock

/-- Completing a step looks at the clock only. -/
theorem ignoresEarlier_completeStep (step : String) (start : Nat) :
    IgnoresEarlier before (completeStep step start) :=
  (ignoresEarlier_since start).bind fun _ => (ignoresEarlier_add _).bind fun _ =>
    ignoresEarlier_pure _

end Log

/-! ## Preparing a graph -/

namespace Preparation

/-- With further events in front of the log. -/
def behind (before : List Event) (p : Preparing) : Preparing :=
  { p with log := p.log.behind before }

variable {α : Type} {entry : StateM Log α}

/-- An entry that ignores earlier events may be made behind them. -/
theorem commutes_log (appends : Log.IgnoresEarlier before entry) :
    Commutes (behind before) (log entry) := by
  refine commutes_get_bind fun p => ?_
  change (Except.ok (entry.run (p.log.behind before)).1,
    ({ p with log := (entry.run (p.log.behind before)).2 } : Preparing)) = _
  rw [appends p.log]
  rfl

theorem commutes_info (message : String) : Commutes (behind before) (info message) :=
  commutes_log (Log.ignoresEarlier_add _)

theorem commutes_apply (event : GraphEvent) : Commutes (behind before) (apply event) := by
  refine commutes_get_bind fun p => ?_
  dsimp only [behind]
  cases p.graph.apply event <;> rfl

theorem commutes_hydrate (d : Disk) (cache : Cache) :
    Commutes (behind before) (hydrate d cache) := by
  refine commutes_get_bind fun p => ?_
  dsimp only [behind]
  cases cache.hydrate d p.graph <;> rfl

/-- Compiling does not look at the log. -/
theorem commutes_phase (step : Compile Nat) : Commutes (behind before) (phase step) := by
  refine commutes_get_bind fun p => ?_
  dsimp only [behind]
  rcases Graph.runCompile step p.graph with ⟨result, g, messages⟩
  have told : Commutes (behind before) (messages.forM fun m => info ("    " ++ m)) :=
    .forM fun m _ => commutes_info _
  cases result with
  | ok n => exact (told.bind fun _ => commutes_pure ()) { p with graph := g }
  | error f => exact (told.bind fun _ => commutes_throw f) { p with graph := g }

/-- Rebuilding does not look at the log. -/
theorem commutes_rebuild [SetOrder] (d : Disk) : Commutes (behind before) (rebuild d) := by
  refine (commutes_apply _).bind fun _ => commutes_get_bind fun p => ?_
  dsimp only [behind]
  have phases : Commutes (behind before) (phase (Graph.compileCore d) >>= fun _ =>
      phase (Graph.compileSystem d)) :=
    (commutes_phase _).bind fun _ => commutes_phase _
  cases p.graph.reset with
  | ok g => exact phases { p with graph := g }
  | error f => rfl

/-- Reporting a miss does not look at the log. -/
theorem commutes_reportMiss : Commutes (behind before) reportMiss := by
  refine commutes_get_bind fun p => ?_
  dsimp only [behind]
  have miss : Commutes (behind before)
      (info "    Initialization from caches failed - compiling from scratch") := commutes_info _
  cases p.cache.bind CacheMiss.trace with
  | none => exact miss p
  | some trace => exact ((commutes_log (Log.ignoresEarlier_add _)).bind fun _ => miss) p

/-- Filling a graph does not look at the log. -/
theorem commutes_fill [SetOrder] (d : Disk) (cache : Cache) : Commutes (behind before)
    (fill d cache) := by
  refine (commutes_hydrate d cache).bind fun hit => ?_
  cases hit with
  | true =>
    exact (commutes_apply _).bind fun _ => (commutes_info _).bind fun _ => commutes_apply _
  | false =>
    exact (commutes_apply _).bind fun _ => commutes_reportMiss.bind fun _ =>
      (commutes_rebuild d).bind fun _ => commutes_apply _

theorem commutes_abandon (start : Nat) (f : Failure) :
    Commutes (behind before) (abandon start f) :=
  (commutes_apply _).bind fun _ => (commutes_log (Log.ignoresEarlier_since start)).bind fun _ =>
    (commutes_log (Log.ignoresEarlier_since start)).bind fun _ =>
      (commutes_log (Log.ignoresEarlier_add _)).bind fun _ => commutes_throw f

/-- The step that prepares a graph does not look at the log. -/
theorem commutes_prepare [SetOrder] (d : Disk) (cache : Cache) (start : Nat) :
    Commutes (behind before) (prepare d cache start) :=
  ((commutes_fill d cache).tryCatch (commutes_abandon start)).bind fun _ =>
    (commutes_log (Log.ignoresEarlier_completeStep _ start)).bind fun _ => commutes_pure ()

/-- Preparing a graph adds the same events to any log. -/
theorem run_behind [SetOrder] (d : Disk) (all : RepositorySet) (selected : List String)
    (cache : Cache) (l : Log) : run d all selected cache (l.behind before) =
      ((run d all selected cache l).1, (run d all selected cache l).2.1,
        (run d all selected cache l).2.2.behind before) := by
  unfold run
  rw [Log.ignoresEarlier_beginStep stepName l]
  rcases (Log.beginStep stepName).run l with ⟨start, l₁⟩
  dsimp only
  cases all.subset selected with
  | error f => rfl
  | ok s =>
    have commutes : Commutes (behind before) (prepare d cache start) := commutes_prepare _ _ _
    have moved := commutes ⟨Graph.new s, cache.initial, l₁⟩
    dsimp only [behind] at moved ⊢
    rw [moved]
    rfl

end Preparation

/-! ## Steps of a run -/

namespace World

variable {w w' : World}

/-- A world with further events in front of its log. -/
def behind (before : List Event) (w : World) : World := { w with log := w.log.behind before }

/-- Worlds that differ only in what has been logged. -/
structure SameButLog (w w' : World) : Prop where
  disk : w.disk = w'.disk
  now : w.log.now = w'.log.now

/-- A world is one without events, put behind its events. -/
theorem eq_behind (w : World) : w = behind w.log.events ⟨w.disk, ⟨[], w.log.now⟩⟩ := by
  change w = ⟨w.disk, ⟨w.log.events ++ [], w.log.now⟩⟩
  rw [List.append_nil]

end World

namespace Run

variable {α : Type} {entry : StateM Log α} {x : Run α} {w w' : World}

/-- A step that makes no difference between earlier events makes none between alike worlds. -/
theorem perform_of_sameButLog (commutes : ∀ before, Commutes (World.behind before) x)
    (alike : w.SameButLog w') :
    (perform x w).1 = (perform x w').1 ∧ (perform x w).2.SameButLog (perform x w').2 := by
  unfold perform
  rw [w.eq_behind, w'.eq_behind, ← alike.disk, ← alike.now, commutes, commutes]
  exact ⟨rfl, rfl, rfl⟩

/-- In a run as well such an entry may be made behind other events. -/
theorem commutes_log (appends : Log.IgnoresEarlier before entry) :
    Commutes (World.behind before) (log entry) := by
  intro w
  rw [run_log, run_log]
  change (Except.ok (entry.run (w.log.behind before)).1,
    ({ w with log := (entry.run (w.log.behind before)).2 } : World)) = _
  rw [appends w.log]
  rfl

/-- Actions on files do not look at the log. -/
theorem commutes_files (action : Files.Action α) :
    Commutes (World.behind before) (files action) := by
  intro w
  rw [run_files, run_files]
  rfl

theorem commutes_orThrow (result : Except Failure α) :
    Commutes (World.behind before) (orThrow result) := by
  intro w
  rw [run_orThrow, run_orThrow]

end Run

namespace Metadata

variable (g : Graph) (u : OutputUnit) (destination : Path)

theorem commutes_publishNamed :
    Commutes (World.behind before) (publishNamed g u destination) := by
  refine ((Run.commutes_orThrow _).bind fun _ => Run.commutes_files _).tryCatch fun f => ?_
  split
  · exact commutes_throw _
  · exact commutes_throw _

theorem commutes_publishStep (modular : Bool) :
    Commutes (World.behind before) (publishStep g modular destination u) := by
  unfold publishStep
  cases modular with
  | true =>
    exact (Run.commutes_log (Log.ignoresEarlier_beginStep _)).bind fun start =>
      (commutes_publishNamed g u destination).bind fun _ =>
        (Run.commutes_log (Log.ignoresEarlier_completeStep _ start)).bind fun _ => commutes_pure _
  | false => exact (commutes_publishNamed g u destination).bind fun _ => commutes_pure _

/-- Publishing metadata does not look at earlier events. -/
theorem commutes_publish (plan : Plan) :
    Commutes (World.behind before) (publish g plan destination) :=
  (Run.commutes_log (Log.ignoresEarlier_beginStep _)).bind fun start =>
    (Commutes.mapM fun u _ => commutes_publishStep g u destination _).bind fun _ =>
      (Run.commutes_log (Log.ignoresEarlier_completeStep _ start)).bind fun _ => commutes_pure _

end Metadata

namespace Code

theorem commutes_writeSources (code : Generation) (directory : Path) :
    Commutes (World.behind before) (writeSources code directory) := by
  refine (Commutes.mapM fun group _ => Commutes.mapM fun m _ => ?_).bind fun _ => commutes_pure _
  exact (Run.commutes_files _).bind fun _ => commutes_pure _

/-- Generating code does not look at earlier events. -/
theorem commutes_generateStep (g : Graph) (plan : Plan) (external : ExternalPackage)
    (directory : Option Path) :
    Commutes (World.behind before) (generateStep g plan external directory) := by
  have written : Commutes (World.behind before) (generateInto g plan external directory) := by
    refine (Run.commutes_orThrow _).bind fun code => ?_
    cases directory with
    | none => exact commutes_pure code
    | some directory =>
      exact (commutes_writeSources code directory).bind fun _ => commutes_pure code
  exact (Run.commutes_log (Log.ignoresEarlier_beginStep _)).bind fun start => written.bind fun _ =>
    (Run.commutes_log (Log.ignoresEarlier_add _)).bind fun _ =>
      (Run.commutes_log (Log.ignoresEarlier_completeStep _ start)).bind fun _ => commutes_pure _

/-- Compiling code does not look at earlier events. -/
theorem commutes_compileStep [Compiler] (code : Generation) (directory : Path) :
    Commutes (World.behind before) (compileStep code directory) := by
  refine (Run.commutes_log (Log.ignoresEarlier_beginStep _)).bind fun start =>
    (Run.commutes_orThrow _).bind fun modules =>
      (Run.commutes_log (Log.ignoresEarlier_completeStep _ start)).bind fun _ =>
        (Run.commutes_log (Log.ignoresEarlier_beginStep _)).bind fun start => ?_
  have written : Commutes (World.behind before) (writeModules directory modules) :=
    .mapM fun m _ => (Run.commutes_files _).bind fun _ => commutes_pure _
  exact written.bind fun _ => (Run.commutes_log (Log.ignoresEarlier_add _)).bind fun _ =>
    (Run.commutes_log (Log.ignoresEarlier_completeStep _ start)).bind fun _ => commutes_pure _

end Code

namespace Pipeline

variable (s : Settings) (places : Discovery) (around : Surroundings) (start : Nat)

theorem commutes_info (message : String) : Commutes (World.behind before) (info message) :=
  Run.commutes_log (Log.ignoresEarlier_add _)

theorem commutes_announceSources (sources : Option Path) :
    Commutes (World.behind before) (match sources with
      | none => return ()
      | some directory => info s!"  Codegen output directory: {directory}") := by
  cases sources with
  | none => exact commutes_pure ()
  | some directory => exact commutes_info _

theorem commutes_announceLayout : Commutes (World.behind before) (announceLayout s) := by
  unfold announceLayout
  have sources : Commutes (World.behind before) _ := commutes_announceSources s.layout.sources
  cases s.layout.metadata with
  | none => exact (commutes_info _).bind fun _ => (commutes_info _).bind fun _ => sources
  | some directory =>
    dsimp only
    split
    · exact (commutes_info _).bind fun _ => sources
    · exact (commutes_info _).bind fun _ => (commutes_info _).bind fun _ => sources

/-- Choosing repositories does not look at earlier events. -/
theorem commutes_choose [SetOrder] : Commutes (World.behind before) (choose s places around) := by
  refine commutes_get_bind fun w => ?_
  exact ((Run.commutes_orThrow _).bind fun all => (commutes_info _).bind fun _ =>
    (Run.commutes_orThrow _).bind fun _ => (commutes_info _).bind fun _ => commutes_pure _) w

/-- Preparing a graph does not look at earlier events. -/
theorem commutes_prepare [SetOrder] (all : RepositorySet) (selected : List String) (cache : Cache) :
    Commutes (World.behind before) (prepare all selected cache) := by
  refine commutes_get_bind fun w => ?_
  dsimp only [World.behind]
  rw [Preparation.run_behind]
  rcases Preparation.run w.disk all selected cache w.log with ⟨result, miss, l⟩
  exact Run.commutes_orThrow result { w with log := l }

theorem commutes_compile [Code.Compiler] (code : Generation) :
    Commutes (World.behind before) (compile s code) := by
  unfold compile
  split
  · exact (commutes_info _).bind fun _ => commutes_pure _
  · exact Code.commutes_compileStep code s.classes

/-- All stages of a run go the same way after any events. -/
theorem commutes_stages [Code.Compiler] [SetOrder] : Commutes (World.behind before)
    (stages s places around start) := by
  refine (commutes_choose s places around).bind fun ⟨all, selected⟩ =>
    (commutes_announceLayout s).bind fun _ => (commutes_prepare all selected _).bind fun g =>
      (Run.commutes_orThrow _).bind fun plan => ?_
  have published : Commutes (World.behind before) (publish g plan s.layout.metadata) := by
    cases s.layout.metadata with
    | none => exact commutes_pure []
    | some directory => exact Metadata.commutes_publish g directory plan
  exact published.bind fun _ => (Code.commutes_generateStep g plan _ _).bind fun code =>
    (commutes_compile s code).bind fun _ =>
      (Run.commutes_log (Log.ignoresEarlier_completeStep _ start)).bind fun _ => commutes_pure _

theorem commutes_abandon {α : Type} (f : Failure) :
    Commutes (World.behind before) (abandon start f : Run α) :=
  (Run.commutes_log (Log.ignoresEarlier_since start)).bind fun _ =>
    (Run.commutes_log (Log.ignoresEarlier_add _)).bind fun _ =>
      (Run.commutes_log (Log.ignoresEarlier_add _)).bind fun _ => commutes_throw _

end Pipeline

end ModelForge
