import ModelForge.Proofs.Graph.Loading
import ModelForge.Proofs.Graph.Preparation

/-! # The calls of preparing a graph

Preparing is a procedure over a cache and a compiler, which may be run in any monad
(`ModelForge.Preparation.Parts.prepare`). Run on graphs it is what prepares them
(`ModelForge.Preparation.prepare_plain`); run with a list of calls beside the graph it notes each
call to the cache and each phase of the compiler as it is made.
-/

namespace ModelForge

namespace Preparation

variable {m : Type → Type} [Monad m] {α : Type} {d : Disk} {cache : Cache}

/-- A call to the cache or to the compiler. -/
inductive Call where
  | hydrate
  | compileCore
  | compileSystem
  deriving DecidableEq, Repr

/-- What preparing is put together from: steps of its own, and the calls. -/
structure Parts (m : Type → Type) where
  own {α : Type} : Prepare α → m α
  hydrate : m Bool
  compileCore : m Unit
  compileSystem : m Unit

/-- Begins a rebuild: whatever is in the graph is dropped. -/
def restart : Prepare Unit := do
  apply .rebuildStarted
  let p ← get
  match p.graph.reset with
  | .ok g => set { p with graph := g }
  | .error f => throw f

namespace Parts

/-- Compiles the graph from its sources. -/
def rebuild (parts : Parts m) : m Unit := do
  parts.own restart
  parts.compileCore
  parts.compileSystem

/-- Fills the graph from the cache or from its sources. -/
def fill (parts : Parts m) : m Unit := do
  if ← parts.hydrate then
    parts.own (apply .cacheLoaded)
    parts.own (info "    Initialized from cache")
  else
    parts.own (apply .cacheMissed)
    parts.own reportMiss
    parts.rebuild
  parts.own (apply .completed)

/-- Prepares the graph, as a step that began at a reading of the clock. -/
def prepare [MonadExcept Failure m] (parts : Parts m) (start : Nat) : m Unit := do
  tryCatch parts.fill fun f => parts.own (abandon start f)
  let _ ← parts.own (log (Log.completeStep stepName start))

end Parts

/-- The calls as they are made to a graph. -/
def plain [SetOrder] (d : Disk) (cache : Cache) : Parts Prepare where
  own step := step
  hydrate := Preparation.hydrate d cache
  compileCore := phase (Graph.compileCore d)
  compileSystem := phase (Graph.compileSystem d)

theorem rebuild_plain [SetOrder] (d : Disk) (cache : Cache) :
    (plain d cache).rebuild = Preparation.rebuild d := by
  symm
  unfold Preparation.rebuild Parts.rebuild plain restart
  rw [bind_assoc]
  congr 1
  funext _
  rw [bind_assoc]
  congr 1
  funext p
  cases p.graph.reset with
  | ok g => rfl
  | error f => rfl

/-- On graphs the procedure is what prepares them. -/
theorem prepare_plain [SetOrder] (d : Disk) (cache : Cache) (start : Nat) :
    (plain d cache).prepare start = Preparation.prepare d cache start := by
  unfold Parts.prepare Preparation.prepare Parts.fill Preparation.fill
  rw [rebuild_plain]
  rfl

/-! ## Noting the calls -/

/-- A procedure that notes its calls, oldest first. -/
abbrev Noted := ExceptT Failure (StateM (Preparing × List Call))

/-- A step that makes some calls. -/
def noting (calls : List Call) (step : Prepare α) : Noted α := ExceptT.mk fun (p, before) =>
  let (result, p') := step.run.run p
  (result, p', before ++ calls)

/-- The calls, each of them noted. -/
def noted [SetOrder] (d : Disk) (cache : Cache) : Parts Noted where
  own := noting []
  hydrate := noting [.hydrate] (plain d cache).hydrate
  compileCore := noting [.compileCore] (plain d cache).compileCore
  compileSystem := noting [.compileSystem] (plain d cache).compileSystem

variable {β : Type} {x : Noted α} {f : α → Noted β} {step : Prepare α} {next : α → Prepare β}
  {p : Preparing} {before : List Call}

/-- Noting calls changes the list of calls only. -/
theorem run_noting (calls : List Call) (step : Prepare α) (p : Preparing) (before : List Call) :
    (noting calls step).run.run (p, before) =
      ((step.run.run p).1, (step.run.run p).2, before ++ calls) := rfl

/-- Without its notes a procedure is a step. -/
def ErasesTo (x : Noted α) (step : Prepare α) : Prop := ∀ p before, ∃ calls,
  x.run.run (p, before) = ((step.run.run p).1, (step.run.run p).2, before ++ calls)

/-- A step that notes its calls is the step if the calls are forgotten. -/
theorem erasesTo_noting (calls : List Call) (step : Prepare α) :
    ErasesTo (noting calls step) step :=
  fun _ _ => ⟨calls, rfl⟩

theorem erasesTo_pure (a : α) : ErasesTo (pure a) (pure a) :=
  fun _ before => ⟨[], by rw [List.append_nil, Step.run_pure, Step.run_pure]⟩

/-- Forgetting the calls of steps one after the other leaves these steps. -/
theorem ErasesTo.bind (first : ErasesTo x step) (rest : ∀ a, ErasesTo (f a) (next a)) :
    ErasesTo (x >>= f) (step >>= next) := by
  intro p before
  obtain ⟨calls, ran⟩ := first p before
  rcases outcome : step.run.run p with ⟨result, p'⟩
  rw [outcome] at ran
  cases result with
  | error e =>
    refine ⟨calls, ?_⟩
    rw [Step.run_bind_of_error ran, Step.run_bind_of_error outcome]
  | ok a =>
    obtain ⟨more, ranOn⟩ := rest a p' (before ++ calls)
    refine ⟨calls ++ more, ?_⟩
    rw [Step.run_bind_of_ok ran, Step.run_bind_of_ok outcome, ranOn, List.append_assoc]

/-- Forgetting the calls of a step with a handler leaves that step with that handler. -/
theorem ErasesTo.tryCatch {handler : Failure → Noted α} {handler' : Failure → Prepare α}
    (first : ErasesTo x step) (handles : ∀ e, ErasesTo (handler e) (handler' e)) :
    ErasesTo (tryCatch x handler) (tryCatch step handler') := by
  intro p before
  obtain ⟨calls, ran⟩ := first p before
  rcases outcome : step.run.run p with ⟨result, p'⟩
  rw [outcome] at ran
  cases result with
  | error e =>
    obtain ⟨more, handled⟩ := handles e p' (before ++ calls)
    refine ⟨calls ++ more, ?_⟩
    rw [Step.run_tryCatch_of_error ran, Step.run_tryCatch_of_error outcome, handled,
      List.append_assoc]
  | ok a =>
    refine ⟨calls, ?_⟩
    rw [Step.run_tryCatch_of_ok ran, Step.run_tryCatch_of_ok outcome]

/-- The rebuild that notes its calls is the rebuild. -/
theorem erasesTo_rebuild [SetOrder] (d : Disk) (cache : Cache) :
    ErasesTo (noted d cache).rebuild (Preparation.rebuild d) := by
  rw [← rebuild_plain d cache]
  have restarted : ErasesTo ((noted d cache).own restart) ((plain d cache).own restart) :=
    erasesTo_noting [] restart
  exact restarted.bind fun _ => (erasesTo_noting _ _).bind fun _ => erasesTo_noting _ _

/-- Filling a graph with calls noted is filling it. -/
theorem erasesTo_fill [SetOrder] (d : Disk) (cache : Cache) :
    ErasesTo (noted d cache).fill (plain d cache).fill := by
  have own (step : Prepare Unit) : ErasesTo ((noted d cache).own step) ((plain d cache).own step) :=
    erasesTo_noting [] step
  have rebuild : ErasesTo (noted d cache).rebuild (plain d cache).rebuild := by
    rw [rebuild_plain]
    exact erasesTo_rebuild d cache
  unfold Parts.fill
  refine (erasesTo_noting [.hydrate] _).bind fun hit => ?_
  cases hit with
  | true => exact (own _).bind fun _ => (own _).bind fun _ => own _
  | false => exact (own _).bind fun _ => (own _).bind fun _ => rebuild.bind fun _ => own _

/-- Without its notes the procedure prepares the graph. -/
theorem erasesTo_prepare [SetOrder] (d : Disk) (cache : Cache) (start : Nat) :
    ErasesTo ((noted d cache).prepare start) (Preparation.prepare d cache start) := by
  have own {α : Type} (step : Prepare α) :
      ErasesTo ((noted d cache).own step) ((plain d cache).own step) := erasesTo_noting [] step
  have filled := (erasesTo_fill d cache).tryCatch fun f => own (abandon start f)
  rw [← prepare_plain]
  exact filled.bind fun _ => (own _).bind fun _ => erasesTo_pure ()

end Preparation

end ModelForge
