import ModelForge.Proofs.Failing
import ModelForge.Proofs.Graph.Adding
import ModelForge.Proofs.Graph.Compile

/-! # Compiling keeps to the rules of a graph

A graph is misused by an event out of turn, by a change outside loading, and by an element that is
added twice. Compiling a loading graph changes its elements only, and whatever it fails with is no
misuse (`ModelForge.Graph.orderlyPhase_compileCore`, `ModelForge.Graph.orderlyPhase_compileSystem`).
-/

namespace ModelForge

/-- Whether a failure is one of a graph that was used against its rules. -/
def Failure.isMisuse : Failure → Bool
  | .transition _ _ | .frozen _ _ | .duplicateElement _ => true
  | _ => false

/-- A failure that is no misuse of a graph. -/
abbrev Failure.NotMisuse (f : Failure) : Prop := f.isMisuse = false

open Failure (NotMisuse)

theorem Disk.failsOnly_orFail {α : Type} (x : Except Files.Fault α) :
    Result.FailsOnly NotMisuse (Disk.orFail x) := by
  cases x with
  | ok a => exact Result.failsOnly_ok a
  | error fault => exact Result.failsOnly_error rfl

namespace Repository

/-- Reading a source fails for its content, which is no misuse. -/
theorem failsOnly_readSource [SetOrder] (source : String) (content : Octets) :
    Result.FailsOnly NotMisuse (readSource source content) := by
  unfold readSource
  split
  · exact Result.failsOnly_error rfl
  · next fault _ _ => cases fault <;> exact Result.failsOnly_error rfl
  · split
    · exact Result.failsOnly_ok _
    · exact Result.failsOnly_error rfl

/-- Reading a source file fails for its content, which is no misuse. -/
theorem failsOnly_parse [SetOrder] (d : Disk) (r : Repository) (p : Path) :
    Result.FailsOnly NotMisuse (r.parse d p) := by
  unfold parse
  refine (Disk.failsOnly_orFail _).bind fun content => ?_
  exact (failsOnly_readSource _ content).bind fun _ => Result.failsOnly_ok _

end Repository

namespace RepositorySet

variable (s : RepositorySet)

/-- Views of a repository are refused for unknown names only. -/
theorem failsOnly_visibleFrom (name : String) :
    Result.FailsOnly NotMisuse (s.visibleFrom name) := by
  have subset : Result.FailsOnly NotMisuse (s.subset [name]) := by
    unfold RepositorySet.subset
    split
    · exact Result.failsOnly_error rfl
    · exact Result.failsOnly_ok _
  exact subset.map names

/-- Orders are refused for cycles only. -/
theorem failsOnly_dependencyOrder : Result.FailsOnly NotMisuse s.dependencyOrder := by
  unfold dependencyOrder
  split
  · exact Result.failsOnly_ok _
  · exact Result.failsOnly_error rfl

end RepositorySet

namespace Graph

variable {g : Graph} {d : Disk}

/-! ## References -/

theorem failsOnly_lookUp (g : Graph) (e : Element) (path : String) (visible : List String) :
    Result.FailsOnly NotMisuse (g.lookUp e path visible) := by
  unfold lookUp
  split
  · exact Result.failsOnly_error rfl
  · split
    · exact Result.failsOnly_ok _
    · exact Result.failsOnly_error rfl

/-- References fail by not resolving. -/
theorem failsOnly_resolve (g : Graph) (e : Element) : Result.FailsOnly NotMisuse (g.resolve e) := by
  unfold resolve
  split
  · exact Result.failsOnly_ok _
  · refine (g.repositories.failsOnly_visibleFrom _).bind fun visible => ?_
    refine (Result.FailsOnly.forM fun path => ?_).bind fun _ => Result.FailsOnly.forM fun p => ?_
    · unfold resolveSupertype
      refine (failsOnly_lookUp g e path visible).bind fun target => ?_
      split
      · exact Result.failsOnly_ok _
      · exact Result.failsOnly_error rfl
    · unfold resolveProperty
      split
      · exact Result.failsOnly_ok _
      · exact (failsOnly_lookUp g e p.type visible).map _

/-! ## Phases -/

/-- The graph being compiled differs from a given one in its elements only. -/
structure SameButElements (g : Graph) (l : Loading) : Prop where
  repositories : l.graph.repositories = g.repositories
  state : l.graph.state = g.state
  history : l.graph.history = g.history

/-- A step of compiling keeps to the rules of a graph. -/
abbrev ObeysGraph {α : Type} (g : Graph) (step : Compile α) : Prop :=
  Step.Preserves (SameButElements g) NotMisuse step

theorem obeysGraph_say (text : String) : ObeysGraph g (say text) := by
  intro l kept
  exact ⟨⟨kept.repositories, kept.state, kept.history⟩, Result.failsOnly_ok _⟩

theorem obeysGraph_orThrow {α : Type} {x : Except Failure α} (safe : Result.FailsOnly NotMisuse x) :
    ObeysGraph g (orThrow x) := by
  cases x with
  | ok a => exact Step.preserves_pure a
  | error f => exact Step.preserves_throw (safe f rfl)

/-- An element is looked up before it is added, so it is never added twice. -/
theorem obeysGraph_declare (loading : g.state.isLoading = true) (e : Element) :
    ObeysGraph g (declare e) := by
  unfold declare
  refine Step.Preserves.get_bind fun l kept => ?_
  cases found : l.graph.get? e.path with
  | some first => exact Step.preserves_throw rfl
  | none =>
    have stillLoading : l.graph.state.isLoading = true := by rwa [kept.state]
    obtain ⟨g', added, grows⟩ := add_of_new stillLoading found
    dsimp only
    rw [added]
    have grown : SameButElements g { l with graph := g' } :=
      ⟨grows.repositories.trans kept.repositories, grows.state.trans kept.state,
        grows.history.trans kept.history⟩
    exact Step.preserves_set grown

/-- Loading a repository declares elements, as a graph that takes elements allows. -/
theorem obeysGraph_loadRepository [SetOrder] (loading : g.state.isLoading = true) (d : Disk)
    (phase : String) (r : Repository) : ObeysGraph g (loadRepository d phase r) := by
  have file (p : Path) : ObeysGraph g (loadFile d r p) := by
    unfold loadFile
    refine (obeysGraph_orThrow (r.failsOnly_parse d p)).bind fun elements => ?_
    exact (Step.Preserves.forM fun e _ => obeysGraph_declare loading e).bind fun _ =>
      Step.preserves_pure elements
  unfold loadRepository
  refine (obeysGraph_orThrow (Disk.failsOnly_orFail _)).bind fun files => ?_
  refine (obeysGraph_say _).bind fun _ => ?_
  exact (Step.Preserves.mapM fun p _ => file p).bind fun parts => Step.preserves_pure parts.flatten

/-- A whole phase declares elements, as a graph that takes elements allows. -/
theorem obeysGraph_compilePhase [SetOrder] (loading : g.state.isLoading = true) (d : Disk)
    (phase : String) (rs : List Repository) : ObeysGraph g (compilePhase d phase rs) := by
  unfold compilePhase
  refine (Step.Preserves.mapM fun r _ => obeysGraph_loadRepository loading d phase r).bind
    fun parts => ?_
  refine Step.Preserves.get_bind fun l _ => ?_
  refine (obeysGraph_orThrow (Result.FailsOnly.forM (failsOnly_resolve l.graph))).bind fun _ => ?_
  exact (obeysGraph_say _).bind fun _ => Step.preserves_pure _

/-- What comes of a phase: the graph has changed in its elements only, and a failure is no misuse of
it. -/
structure OrderlyPhase (g : Graph) (outcome : Except Failure Nat × Graph × List String) : Prop where
  repositories : outcome.2.1.repositories = g.repositories
  state : outcome.2.1.state = g.state
  history : outcome.2.1.history = g.history
  proper : Result.FailsOnly NotMisuse outcome.1

/-- A phase that obeys the graph is orderly. -/
theorem orderlyPhase_of_obeys {step : Compile Nat} (obeys : ObeysGraph g step) :
    OrderlyPhase g (runCompile step g) := by
  obtain ⟨kept, proper⟩ := obeys ⟨g, []⟩ ⟨rfl, rfl, rfl⟩
  unfold runCompile
  rcases ran : step.run.run ⟨g, []⟩ with ⟨result, l⟩
  rw [ran] at kept proper
  exact ⟨kept.repositories, kept.state, kept.history, proper⟩

/-- Compiling the core repository keeps to the rules of a graph. -/
theorem orderlyPhase_compileCore [SetOrder] (loading : g.state.isLoading = true) (d : Disk) :
    OrderlyPhase g (runCompile (compileCore d) g) := by
  apply orderlyPhase_of_obeys
  unfold compileCore
  exact Step.Preserves.get_bind fun l _ => obeysGraph_compilePhase loading d "core" _

/-- Compiling the other repositories keeps to the rules of a graph. -/
theorem orderlyPhase_compileSystem [SetOrder] (loading : g.state.isLoading = true) (d : Disk) :
    OrderlyPhase g (runCompile (compileSystem d) g) := by
  apply orderlyPhase_of_obeys
  unfold compileSystem
  refine Step.Preserves.get_bind fun l _ => ?_
  refine (obeysGraph_orThrow l.graph.repositories.failsOnly_dependencyOrder).bind fun order => ?_
  exact obeysGraph_compilePhase loading d "system" _

end Graph

end ModelForge
