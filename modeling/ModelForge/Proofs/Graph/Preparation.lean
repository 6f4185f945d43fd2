import ModelForge.Graph.Preparation
import ModelForge.Proofs.Graph.Elements
import ModelForge.Proofs.Graph.WellFormed

/-! # Preparing a graph

What a step of preparing does to the graph does not depend on the log
(`ModelForge.Preparation.ActsAs`), so a run is taken apart into what its steps do. A graph that a
run has rebuilt is ready and holds what a well-formed source tree declares
(`ModelForge.Graph.rebuilt_of_run`), and a run without a cache gives a graph exactly for the
well-formed source trees (`ModelForge.Graph.run_none_iff`).
-/

namespace ModelForge

namespace Preparation

variable {d : Disk} {cache : Cache} {p : Preparing} {g g' : Graph}

/-- A step succeeds exactly when some relation takes the graph to another one, which is then the
graph; beside the graph only the log and what is known about the cache may change. -/
def ActsAs (step : Prepare Unit) (relation : Graph → Graph → Prop) : Prop :=
  ∀ p g', (∃ miss l, step.run.run p = (.ok (), ⟨g', miss, l⟩)) ↔ relation p.graph g'

variable {first second : Prepare Unit} {relation relation' : Graph → Graph → Prop}

/-- Steps one after the other act as their relations one after the other. -/
theorem ActsAs.bind (acts : ActsAs first relation) (acts' : ActsAs second relation') :
    ActsAs (first >>= fun _ => second) (Relation.Comp relation relation') := by
  intro p g''
  constructor
  · rintro ⟨miss, l, done⟩
    obtain ⟨⟨⟩, ⟨g', miss', l'⟩, one, two⟩ := Step.run_bind_eq_ok.mp done
    exact ⟨g', (acts p g').mp ⟨miss', l', one⟩, (acts' ⟨g', miss', l'⟩ g'').mp ⟨miss, l, two⟩⟩
  · rintro ⟨g', one, two⟩
    obtain ⟨miss', l', one⟩ := (acts p g').mpr one
    obtain ⟨miss, l, two⟩ := (acts' ⟨g', miss', l'⟩ g'').mpr two
    exact ⟨miss, l, Step.run_bind_eq_ok.mpr ⟨(), _, one, two⟩⟩

/-- A step that only writes to the log does nothing to the graph. -/
theorem actsAs_of_unchanged (quiet : ∀ p, ∃ l, first.run.run p = (.ok (), { p with log := l })) :
    ActsAs first Eq := by
  intro p g'
  obtain ⟨l, done⟩ := quiet p
  rw [done]
  constructor
  · rintro ⟨miss, l', same⟩
    cases same
    rfl
  · rintro rfl
    exact ⟨p.cache, l, rfl⟩

theorem run_log {α : Type} (entry : StateM Log α) (p : Preparing) :
    (log entry).run.run p = (.ok (entry.run p.log).1, { p with log := (entry.run p.log).2 }) := rfl

theorem actsAs_info (message : String) : ActsAs (info message) Eq :=
  actsAs_of_unchanged fun p => ⟨_, run_log _ p⟩

theorem actsAs_forM_info (messages : List String) :
    ActsAs (messages.forM fun m => info ("    " ++ m)) Eq := by
  refine actsAs_of_unchanged fun p => ?_
  induction messages generalizing p with
  | nil => exact ⟨p.log, rfl⟩
  | cons m messages ih =>
    obtain ⟨l, done⟩ := ih { p with log := ((Log.info ("    " ++ m) (some stepName)).run p.log).2 }
    exact ⟨l, Step.run_bind_eq_ok.mpr ⟨(), _, run_log _ p, done⟩⟩

/-- Reporting a miss leaves the graph alone. -/
theorem actsAs_reportMiss : ActsAs reportMiss Eq := by
  refine actsAs_of_unchanged fun p => ?_
  unfold reportMiss
  rw [Step.run_bind_of_ok (Step.run_get p)]
  cases p.cache.bind CacheMiss.trace with
  | some trace => exact ⟨_, rfl⟩
  | none => exact ⟨_, rfl⟩

/-- An event acts as the graph allows it. -/
theorem actsAs_apply (event : GraphEvent) :
    ActsAs (apply event) fun g g' => g.apply event = .ok g' := by
  intro p g'
  change _ ↔ p.graph.apply event = .ok g'
  unfold apply
  rw [Step.run_bind_of_ok (Step.run_get p)]
  cases p.graph.apply event with
  | ok g =>
    constructor
    · rintro ⟨miss, l, done⟩
      cases done
      rfl
    · intro same
      cases same
      exact ⟨p.cache, p.log, rfl⟩
  | error f =>
    constructor
    · rintro ⟨miss, l, failed⟩
      cases failed
    · intro no
      cases no

/-- A phase acts as compiling does. -/
theorem actsAs_phase (step : Compile Nat) : ActsAs (phase step) fun g g' =>
    ∃ n messages, Graph.runCompile step g = (.ok n, g', messages) := by
  intro p g'
  change _ ↔ ∃ n messages, Graph.runCompile step p.graph = (.ok n, g', messages)
  unfold phase
  rw [Step.run_bind_of_ok (Step.run_get p)]
  rcases Graph.runCompile step p.graph with ⟨result, g, messages⟩
  dsimp only
  rw [Step.run_bind_of_ok (Step.run_set _ _)]
  obtain ⟨miss, l, said⟩ := (actsAs_forM_info messages ⟨g, p.cache, p.log⟩ g).mpr rfl
  rw [Step.run_bind_of_ok said]
  cases result with
  | ok n =>
    constructor
    · rintro ⟨miss', l', done⟩
      cases done
      exact ⟨n, messages, rfl⟩
    · rintro ⟨n', messages', same⟩
      cases same
      exact ⟨miss, l, rfl⟩
  | error f =>
    constructor
    · rintro ⟨miss', l', failed⟩
      cases failed
    · rintro ⟨n, messages', no⟩
      cases no

/-- What rebuilding does to the graph. -/
def Rebuilds [SetOrder] (d : Disk) (g g' : Graph) : Prop :=
  ∃ g₁ g₂, g.apply .rebuildStarted = .ok g₁ ∧ g₁.reset = .ok g₂ ∧ Graph.Compiles d g₂ g'

/-- Rebuilding acts as a rebuild of the graph. -/
theorem actsAs_rebuild [SetOrder] (d : Disk) : ActsAs (rebuild d) (Rebuilds d) := by
  have phases : ActsAs (phase (Graph.compileCore d) >>= fun _ => phase (Graph.compileSystem d))
      (Graph.Compiles d) := by
    intro p g'
    refine ((actsAs_phase (Graph.compileCore d)).bind
      (actsAs_phase (Graph.compileSystem d)) p g').trans
      ?_
    constructor
    · rintro ⟨g₁, ⟨n, messages, one⟩, m, messages', two⟩
      exact ⟨n, g₁, messages, m, messages', one, two⟩
    · rintro ⟨n, g₁, messages, m, messages', one, two⟩
      exact ⟨g₁, ⟨n, messages, one⟩, m, messages', two⟩
  intro p g'
  unfold rebuild
  refine ((actsAs_apply .rebuildStarted).bind (show ActsAs _ fun g g' =>
    ∃ g₁, g.reset = .ok g₁ ∧ Graph.Compiles d g₁ g' from fun p g' => ?_) p g').trans ?_
  · change _ ↔ ∃ g₁, p.graph.reset = .ok g₁ ∧ Graph.Compiles d g₁ g'
    rw [Step.run_bind_of_ok (Step.run_get p)]
    cases p.graph.reset with
    | ok g =>
      dsimp only
      rw [Step.run_bind_of_ok (Step.run_set _ _)]
      refine (phases ⟨g, p.cache, p.log⟩ g').trans ?_
      simp only [Except.ok.injEq, exists_eq_left']
    | error f =>
      constructor
      · rintro ⟨miss, l, failed⟩
        cases failed
      · rintro ⟨g₁, no, _⟩
        cases no
  · constructor
    · rintro ⟨g₁, started, g₂, emptied, compiled⟩
      exact ⟨g₁, g₂, started, emptied, compiled⟩
    · rintro ⟨g₁, g₂, started, emptied, compiled⟩
      exact ⟨g₁, started, g₂, emptied, compiled⟩

/-- What filling from the cache or else from the sources does to the graph. -/
def FillsGraph [SetOrder] (d : Disk) (cache : Cache) (g g' : Graph) : Prop :=
  ∃ hit miss g₁, cache.hydrate d g = .ok (hit, miss, g₁) ∧
    ((hit = true ∧ ∃ g₂, g₁.apply .cacheLoaded = .ok g₂ ∧ g₂.apply .completed = .ok g') ∨
      (hit = false ∧ ∃ g₂ g₃, g₁.apply .cacheMissed = .ok g₂ ∧ Rebuilds d g₂ g₃ ∧
        g₃.apply .completed = .ok g'))

private theorem actsAs_serve : ActsAs (do
      apply .cacheLoaded
      info "    Initialized from cache"
      apply .completed)
    fun g g' => ∃ g₁, g.apply .cacheLoaded = .ok g₁ ∧ g₁.apply .completed = .ok g' := by
  intro p g'
  refine ((actsAs_apply _).bind ((actsAs_info _).bind (actsAs_apply _)) p g').trans ?_
  constructor
  · rintro ⟨g₁, loaded, _, rfl, completed⟩
    exact ⟨g₁, loaded, completed⟩
  · rintro ⟨g₁, loaded, completed⟩
    exact ⟨g₁, loaded, g₁, rfl, completed⟩

private theorem actsAs_miss [SetOrder] (d : Disk) : ActsAs (do
      apply .cacheMissed
      reportMiss
      rebuild d
      apply .completed)
    fun g g' => ∃ g₁ g₂, g.apply .cacheMissed = .ok g₁ ∧ Rebuilds d g₁ g₂ ∧
      g₂.apply .completed = .ok g' := by
  intro p g'
  refine ((actsAs_apply _).bind
    (actsAs_reportMiss.bind ((actsAs_rebuild d).bind (actsAs_apply _))) p
    g').trans ?_
  constructor
  · rintro ⟨g₁, missed, _, rfl, g₂, rebuilt, completed⟩
    exact ⟨g₁, g₂, missed, rebuilt, completed⟩
  · rintro ⟨g₁, g₂, missed, rebuilt, completed⟩
    exact ⟨g₁, missed, g₁, rfl, g₂, rebuilt, completed⟩

/-- Filling acts as hydrating, or as a rebuild after a miss. -/
theorem actsAs_fill [SetOrder] (d : Disk) (cache : Cache) :
    ActsAs (fill d cache) (FillsGraph d cache) := by
  intro p g'
  unfold fill FillsGraph
  cases hydrated : cache.hydrate d p.graph with
  | error f =>
    have failed : (hydrate d cache).run.run p = (.error f, p) := by
      unfold hydrate
      rw [Step.run_bind_of_ok (Step.run_get p), hydrated]
      rfl
    rw [Step.run_bind_of_error failed]
    constructor
    · rintro ⟨miss, l, no⟩
      cases no
    · rintro ⟨hit, miss, g₁, no, _⟩
      cases no
  | ok outcome =>
    obtain ⟨hit, miss, g₁⟩ := outcome
    have served : (hydrate d cache).run.run p = (.ok hit, ⟨g₁, miss, p.log⟩) := by
      unfold hydrate
      rw [Step.run_bind_of_ok (Step.run_get p), hydrated]
      rfl
    rw [Step.run_bind_of_ok served]
    cases hit with
    | true =>
      refine (actsAs_serve ⟨g₁, miss, p.log⟩ g').trans ?_
      constructor
      · intro done
        exact ⟨true, miss, g₁, rfl, .inl ⟨rfl, done⟩⟩
      · rintro ⟨_, _, _, same, done⟩
        cases same
        exact (done.resolve_right fun no => by cases no.1).2
    | false =>
      refine (actsAs_miss d ⟨g₁, miss, p.log⟩ g').trans ?_
      constructor
      · intro done
        exact ⟨false, miss, g₁, rfl, .inr ⟨rfl, done⟩⟩
      · rintro ⟨_, _, _, same, done⟩
        cases same
        exact (done.resolve_left fun no => by cases no.1).2

/-- After a failure nothing is prepared. -/
theorem run_abandon (start : Nat) (f : Failure) (p : Preparing) :
    ∃ f' p', (abandon start f).run.run p = (.error f', p') := by
  unfold abandon
  rcases failed : (apply .failed).run.run p with ⟨outcome, p'⟩
  cases outcome with
  | error f' => exact ⟨f', p', Step.run_bind_of_error failed _⟩
  | ok done =>
    rw [Step.run_bind_of_ok failed]
    exact ⟨f, _, rfl⟩

/-- The whole step of preparing fills the graph, or fails and prepares nothing. -/
theorem actsAs_prepare [SetOrder] (d : Disk) (cache : Cache) (start : Nat) :
    ActsAs (prepare d cache start) (FillsGraph d cache) := by
  intro p g'
  rw [← actsAs_fill d cache p g']
  unfold prepare
  rcases filled : (fill d cache).run.run p with ⟨outcome, p'⟩
  cases outcome with
  | ok done =>
    rw [Step.run_bind_of_ok (Step.run_tryCatch_of_ok filled _),
      Step.run_bind_of_ok (run_log _ p')]
    constructor
    · rintro ⟨miss, l, same⟩
      cases same
      exact ⟨p'.cache, p'.log, rfl⟩
    · rintro ⟨miss, l, same⟩
      cases same
      exact ⟨miss, _, rfl⟩
  | error f =>
    obtain ⟨f', p'', abandoned⟩ := run_abandon start f p'
    have failed := (Step.run_tryCatch_of_error filled (abandon start)).trans abandoned
    rw [Step.run_bind_of_error failed]
    constructor
    · rintro ⟨miss, l, no⟩
      cases no
    · rintro ⟨miss, l, no⟩
      cases no

/-- A run gives a graph exactly when the selection is known and the graph of its repositories can be
filled. -/
theorem run_eq_ok [SetOrder] {all : RepositorySet} {selected : List String} {l : Log} :
    (∃ miss l', run d all selected cache l = (.ok g, miss, l')) ↔
      ∃ s, all.subset selected = .ok s ∧ FillsGraph d cache (Graph.new s) g := by
  unfold run
  rcases (Log.beginStep stepName).run l with ⟨start, l₁⟩
  dsimp only
  cases all.subset selected with
  | error f =>
    constructor
    · rintro ⟨miss, l', no⟩
      cases no
    · rintro ⟨s, no, _⟩
      cases no
  | ok s =>
    simp only [Except.ok.injEq, exists_eq_left']
    rw [← actsAs_prepare d cache start ⟨Graph.new s, cache.initial, l₁⟩ g]
    rcases (prepare d cache start).run.run ⟨Graph.new s, cache.initial, l₁⟩ with ⟨outcome, p⟩
    cases outcome with
    | error f =>
      constructor
      · rintro ⟨miss, l', no⟩
        cases no
      · rintro ⟨miss, l', no⟩
        cases no
    | ok done =>
      constructor
      · rintro ⟨miss, l', same⟩
        cases same
        exact ⟨p.cache, p.log, rfl⟩
      · rintro ⟨miss, l', same⟩
        cases same
        exact ⟨miss, l', rfl⟩

end Preparation

namespace Cache

variable {d : Disk} {g g' : Graph} {cache : Cache} {hit : Bool} {miss : Option CacheMiss}

/-- Whether a cache serves or not, it changes the elements only. -/
theorem load_keeps (d : Disk) (content : Octets) (g : Graph) :
    (load d content g).2.repositories = g.repositories ∧ (load d content g).2.state = g.state ∧
      (load d content g).2.history = g.history := by
  unfold load
  split
  · exact ⟨rfl, rfl, rfl⟩
  · next s _ =>
    split
    · exact ⟨rfl, rfl, rfl⟩
    · split
      · exact ⟨rfl, rfl, rfl⟩
      · split
        · exact ⟨rfl, rfl, rfl⟩
        · have kept := Graph.addAll_keeps g s.elements
          rcases added : addAll g s.elements with ⟨failed, g₁⟩
          rw [added] at kept
          cases failed <;> exact kept

/-- Hydrating changes the elements only. -/
theorem hydrate_keeps (hydrated : cache.hydrate d g = .ok (hit, miss, g')) :
    g'.repositories = g.repositories ∧ g'.state = g.state ∧ g'.history = g.history := by
  unfold hydrate at hydrated
  split at hydrated
  · cases hydrated
    exact ⟨rfl, rfl, rfl⟩
  · cases hydrated
    exact ⟨rfl, rfl, rfl⟩
  · split at hydrated
    · cases hydrated
      exact ⟨rfl, rfl, rfl⟩
    · cases hydrated
    · cases hydrated
      exact ⟨rfl, rfl, rfl⟩
    · next content _ =>
      have kept := load_keeps d content g
      rcases loaded : load d content g with ⟨why, g₁⟩
      rw [loaded] at hydrated kept
      cases why <;> cases hydrated <;> exact kept

end Cache

namespace Graph

variable {d : Disk} {g g' : Graph} {s all : RepositorySet} {cache : Cache} {selected : List String}
  {miss : Option CacheMiss} {l l' : Log}

/-- What an event makes of a graph. -/
theorem apply_eq_ok {event : GraphEvent} : g.apply event = .ok g' ↔
    ∃ state, g.state.next? event = some state ∧
      g' = { g with state := state, history := g.history ++ [state] } := by
  unfold apply
  cases g.state.next? event with
  | none =>
    constructor
    · intro no
      cases no
    · rintro ⟨state, no, _⟩
      cases no
  | some state =>
    constructor
    · intro same
      cases same
      exact ⟨state, rfl, rfl⟩
    · rintro ⟨state', same, rfl⟩
      cases same
      rfl

/-- Graphs that differ in their history only. -/
structure SameButHistory (g g' : Graph) : Prop where
  repositories : g.repositories = g'.repositories
  state : g.state = g'.state
  elements : g.elements = g'.elements

theorem SameButHistory.trans {g'' : Graph} (first : SameButHistory g g')
    (second : SameButHistory g' g'') : SameButHistory g g'' :=
  ⟨first.repositories.trans second.repositories, first.state.trans second.state,
    first.elements.trans second.elements⟩

/-- Graphs that differ in their histories alone are equal with the same history. -/
theorem SameButHistory.eq (alike : SameButHistory g g') : g = { g' with history := g.history } := by
  obtain ⟨repositories, state, history, elements, ascending⟩ := g
  obtain ⟨rfl, rfl, rfl⟩ := alike
  rfl

/-- A ready graph that holds what the repositories of a well-formed source tree declare. -/
structure Rebuilt [SetOrder] (d : Disk) (s : RepositorySet) (g : Graph) : Prop where
  repositories : g.repositories = s
  ready : g.state = .ready
  wellFormed : s.WellFormed s.Sees d
  elements : g.elements.Perm (s.declares d)

variable [SetOrder]

/-- A rebuilt graph is ready. -/
theorem Rebuilt.isReady (rebuilt : Rebuilt d s g) : g.isReady = true :=
  beq_iff_eq.mpr rebuilt.ready

/-- The elements of a rebuilt graph are valid. -/
theorem valid_of_rebuilt {e : Element} (rebuilt : Rebuilt d s g) (member : e ∈ g.elements) :
    e.Valid := by
  obtain ⟨r, -, declared⟩ := RepositorySet.mem_declares.mp (rebuilt.elements.mem_iff.mp member)
  exact Repository.valid_of_declares declared

/-- What was filled without the cache was compiled from a well-formed source tree. -/
theorem rebuilt_of_fillsGraph {g₁ g₂ g₃ : Graph} (missed : g₁.apply .cacheMissed = .ok g₂)
    (rebuilds : Preparation.Rebuilds d g₂ g₃) (completed : g₃.apply .completed = .ok g) :
    Rebuilt d g₁.repositories g ∧ GraphState.rebuilding ∈ g.history := by
  obtain ⟨h₁, h₂, started, emptied, compiled⟩ := rebuilds
  obtain ⟨state₂, -, rfl⟩ := apply_eq_ok.mp missed
  obtain ⟨state, next, rfl⟩ := apply_eq_ok.mp started
  have rebuilding : state = .rebuilding := by
    revert next
    cases state₂ <;> intro next <;> cases next
    rfl
  subst rebuilding
  cases emptied
  obtain ⟨wellFormed, grows⟩ := wellFormed_of_compiles rfl compiled
  obtain ⟨state', next', rfl⟩ := apply_eq_ok.mp completed
  rw [grows.state] at next'
  cases next'
  refine ⟨⟨grows.repositories, rfl, wellFormed, ?_⟩, ?_⟩
  · have all := grows.elements
    rwa [List.append_nil] at all
  · change _ ∈ g₃.history ++ _
    rw [grows.history]
    exact List.mem_append_left _ (List.mem_append_right _ List.mem_cons_self)

/-- A graph of a run that went through rebuilding was compiled from the source files. -/
theorem rebuilt_of_run (done : Preparation.run d all selected cache l = (.ok g, miss, l'))
    (rebuilding : GraphState.rebuilding ∈ g.history) :
    ∃ s, all.subset selected = .ok s ∧ Rebuilt d s g := by
  obtain ⟨s, sub, hit, missed, g₁, hydrated, served | notServed⟩ :=
    Preparation.run_eq_ok.mp ⟨miss, l', done⟩
  · obtain ⟨-, g₂, loaded, completed⟩ := served
    obtain ⟨-, state, history⟩ := Cache.hydrate_keeps hydrated
    obtain ⟨state₂, next, rfl⟩ := apply_eq_ok.mp loaded
    obtain ⟨state₃, next', rfl⟩ := apply_eq_ok.mp completed
    rw [state] at next
    cases next
    cases next'
    rw [history] at rebuilding
    change GraphState.rebuilding ∈ [.notLoaded, .cacheHit, .ready] at rebuilding
    exact absurd rebuilding (by decide)
  · obtain ⟨-, g₂, g₃, missing, rebuilds, completed⟩ := notServed
    have rebuilt := (rebuilt_of_fillsGraph missing rebuilds completed).1
    rw [(Cache.hydrate_keeps hydrated).1] at rebuilt
    exact ⟨s, sub, rebuilt⟩

/-- Wherever its elements come from, a prepared graph has the repositories of the selection. -/
theorem repositories_of_run (done : Preparation.run d all selected cache l = (.ok g, miss, l')) :
    all.subset selected = .ok g.repositories := by
  obtain ⟨s, sub, hit, missed, g₁, hydrated, served | notServed⟩ :=
    Preparation.run_eq_ok.mp ⟨miss, l', done⟩
  · obtain ⟨-, g₂, loaded, completed⟩ := served
    obtain ⟨state, -, rfl⟩ := apply_eq_ok.mp loaded
    obtain ⟨state', -, rfl⟩ := apply_eq_ok.mp completed
    exact sub.trans (congrArg Except.ok (Cache.hydrate_keeps hydrated).1.symm)
  · obtain ⟨-, g₂, g₃, missing, rebuilds, completed⟩ := notServed
    have rebuilt := (rebuilt_of_fillsGraph missing rebuilds completed).1
    rw [(Cache.hydrate_keeps hydrated).1] at rebuilt
    exact sub.trans (congrArg Except.ok rebuilt.repositories.symm)

/-- A run without a cache rebuilds. -/
theorem rebuilt_of_run_none (sub : all.subset selected = .ok s)
    (done : Preparation.run d all selected .none l = (.ok g, miss, l')) :
    Rebuilt d s g ∧ GraphState.rebuilding ∈ g.history := by
  obtain ⟨s', sub', hit, missed, g₁, hydrated, served | notServed⟩ :=
    Preparation.run_eq_ok.mp ⟨miss, l', done⟩
  · cases hydrated
    cases served.1
  · rw [sub] at sub'
    cases sub'
    cases hydrated
    obtain ⟨-, g₂, g₃, missing, rebuilds, completed⟩ := notServed
    exact rebuilt_of_fillsGraph missing rebuilds completed

/-- A run without a cache succeeds exactly on the well-formed source trees. -/
theorem run_none_iff (sub : all.subset selected = .ok s) (l : Log) :
    (∃ g miss l', Preparation.run d all selected .none l = (.ok g, miss, l')) ↔
      s.WellFormed s.Sees d := by
  constructor
  · rintro ⟨g, miss, l', done⟩
    exact (rebuilt_of_run_none sub done).1.wellFormed
  · intro wellFormed
    let start : Graph := { Graph.new s with
      state := .rebuilding, history := [.notLoaded, .cacheMiss, .rebuilding] }
    obtain ⟨g₁, compiled⟩ := compiles_of_wellFormed (g := start) rfl rfl wellFormed
    have state : g₁.state = .rebuilding := (wellFormed_of_compiles rfl compiled).2.state
    have completed : ∃ g, g₁.apply .completed = .ok g :=
      ⟨_, apply_eq_ok.mpr ⟨.ready, by rw [state]; rfl, rfl⟩⟩
    obtain ⟨g, completed⟩ := completed
    have fills : Preparation.FillsGraph d .none (Graph.new s) g :=
      ⟨false, some .notConfigured, Graph.new s, rfl, .inr ⟨rfl, _, g₁, rfl,
        ⟨_, start, rfl, rfl, compiled⟩, completed⟩⟩
    obtain ⟨miss, l', done⟩ := Preparation.run_eq_ok.mpr ⟨s, sub, fills⟩
    exact ⟨g, miss, l', done⟩

/-! ## The same graph up to its history -/

/-- Rebuilds of one source tree give the same graph. -/
theorem Rebuilt.sameButHistory (rebuilt : Rebuilt d s g) (rebuilt' : Rebuilt d s g') :
    SameButHistory g g' :=
  ⟨rebuilt.repositories.trans rebuilt'.repositories.symm, rebuilt.ready.trans rebuilt'.ready.symm,
    elements_eq_of_perm (rebuilt.elements.trans rebuilt'.elements.symm)⟩

end Graph

namespace Sample

attribute [local instance] SetOrder.asWritten

/-- The graph of the small source tree. -/
def graph : Graph := ⟨repositories, .ready, [], elements, by decide⟩

/-- The sample selects both repositories. -/
theorem subset_repositories : repositories.subset ["platform", "q"] = .ok repositories :=
  RepositorySet.subset_names repositories

/-- The sample's graph is what a rebuild gives. -/
theorem rebuilt_graph : Graph.Rebuilt disk repositories graph :=
  ⟨rfl, rfl, wellFormed_repositories, List.Perm.of_eq declares_repositories.2.symm⟩

/-- A run without a cache gives the sample's graph, apart from its history. -/
theorem exists_run : ∃ g miss l',
    Preparation.run disk repositories ["platform", "q"] .none .empty = (.ok g, miss, l') ∧
      GraphState.rebuilding ∈ g.history ∧ Graph.SameButHistory g graph := by
  obtain ⟨g, miss, l', done⟩ :=
    (Graph.run_none_iff subset_repositories .empty).mpr wellFormed_repositories
  obtain ⟨rebuilt, rebuilding⟩ := Graph.rebuilt_of_run_none subset_repositories done
  exact ⟨g, miss, l', done, rebuilding, rebuilt.sameButHistory rebuilt_graph⟩

end Sample

end ModelForge
