import ModelForge.Proofs.Graph.Calls
import ModelForge.Proofs.Graph.Loading
import ModelForge.Proofs.Graph.Coherence

/-! # Falling back from a cache

A cache that misses may have added some elements. Rebuilding begins from the same graph all the
same, since nothing but the elements can differ and those are dropped
(`ModelForge.Graph.CacheMissed.restarted`). So a run whose cache misses ends as one without a
cache, and there are only three ways for a run to end (`ModelForge.Preparation.EndsInOrder`). All
this is so unless the path of the cache holds a null character. Then hydrating fails instead of
missing, and the run ends with that failure before anything is compiled
(`ModelForge.Preparation.run_falls_back`).
-/

namespace ModelForge

namespace Graph

variable {g : Graph} {event : GraphEvent} {state : GraphState}

/-- A graph that goes on to a state. -/
def goTo (g : Graph) (state : GraphState) : Graph :=
  { g with state := state, history := g.history ++ [state] }

/-- A graph whose rebuilding begins. -/
def restarted (g : Graph) : Graph :=
  { g.goTo .rebuilding with elements := [], ascending := (new g.repositories).ascending }

/-- Where there is a next state, an event leads to it. -/
theorem apply_of_next (next : g.state.next? event = some state) :
    g.apply event = .ok (g.goTo state) := apply_eq_ok.mpr ⟨state, next, rfl⟩

/-- A graph of some repositories that the cache did not serve. -/
structure CacheMissed (s : RepositorySet) (g : Graph) : Prop where
  repositories : g.repositories = s
  state : g.state = .cacheMiss
  history : g.history = [.notLoaded, .cacheMiss]

/-- The graph that is compiled after a miss. -/
def emptied (s : RepositorySet) : Graph := ((new s).goTo .cacheMiss).restarted

/-- Whatever a missing cache has added is dropped. -/
theorem CacheMissed.restarted {s : RepositorySet} (missed : CacheMissed s g) :
    g.restarted = emptied s := by
  obtain ⟨repositories, state, history, elements, ascending⟩ := g
  obtain ⟨rfl, rfl, rfl⟩ := missed
  rfl

end Graph

namespace Preparation

variable {α β : Type} {d : Disk} {cache : Cache} {s : RepositorySet} {g g' g'' : Graph}

/-! ## What steps come to -/

/-- A step on a graph comes to a result and a graph, whatever is in the log and known about the
cache. -/
def StepRunsTo (step : Prepare α) (g : Graph) (result : Except Failure α) (g' : Graph) : Prop :=
  ∀ why l, ∃ why' l', step.run.run ⟨g, why, l⟩ = (result, ⟨g', why', l'⟩)

/-- A procedure on a graph makes some calls and comes to a result and a graph. -/
def CallsRunTo (x : Noted α) (g : Graph) (calls : List Call) (result : Except Failure α)
    (g' : Graph) : Prop :=
  ∀ why l before, ∃ why' l',
    x.run.run (⟨g, why, l⟩, before) = (result, ⟨g', why', l'⟩, before ++ calls)

variable {step : Prepare α} {x : Noted α} {f : α → Noted β} {a : α} {e : Failure}
  {result : Except Failure α} {last : Except Failure β} {calls more : List Call} {path : Path}

/-- A step that is noted with some calls makes these calls. -/
theorem calls_noting (ran : StepRunsTo step g result g') (calls : List Call) :
    CallsRunTo (noting calls step) g calls result g' := by
  intro why l before
  obtain ⟨why', l', outcome⟩ := ran why l
  exact ⟨why', l', by rw [run_noting, outcome]⟩

/-- Two procedures make their calls one after the other. -/
theorem CallsRunTo.bind (first : CallsRunTo x g calls (.ok a) g')
    (next : CallsRunTo (f a) g' more last g'') :
    CallsRunTo (x >>= f) g (calls ++ more) last g'' := by
  intro why l before
  obtain ⟨why', l', ran⟩ := first why l before
  obtain ⟨why'', l'', ranOn⟩ := next why' l' (before ++ calls)
  exact ⟨why'', l'', by rw [Step.run_bind_of_ok ran, ranOn, List.append_assoc]⟩

/-- Nothing is called behind a failure. -/
theorem CallsRunTo.bind_error (first : CallsRunTo x g calls (.error e) g') :
    CallsRunTo (x >>= f) g calls (.error e) g' := by
  intro why l before
  obtain ⟨why', l', ran⟩ := first why l before
  exact ⟨why', l', Step.run_bind_of_error ran f⟩

/-- The calls of a handler come behind those of the procedure that failed. -/
theorem CallsRunTo.tryCatch_error (handler : Failure → Noted α)
    (first : CallsRunTo x g calls (.error e) g')
    (handles : CallsRunTo (handler e) g' more result g'') :
    CallsRunTo (tryCatch x handler) g (calls ++ more) result g'' := by
  intro why l before
  obtain ⟨why', l', ran⟩ := first why l before
  obtain ⟨why'', l'', ranOn⟩ := handles why' l' (before ++ calls)
  exact ⟨why'', l'', by rw [Step.run_tryCatch_of_error ran, ranOn, List.append_assoc]⟩

/-! ## The steps -/

/-- An event that the state of a graph takes leads to the next state. -/
theorem step_apply {event : GraphEvent} {state : GraphState}
    (next : g.state.next? event = some state) :
    StepRunsTo (apply event) g (.ok ()) (g.goTo state) := by
  intro why l
  unfold apply
  rw [Step.run_bind_of_ok (Step.run_get _), Graph.apply_of_next next]
  exact ⟨why, l, rfl⟩

/-- A message leaves the graph alone. -/
theorem step_info (message : String) (g : Graph) : StepRunsTo (info message) g (.ok ()) g :=
  fun why _ => ⟨why, _, rfl⟩

/-- Telling of a miss leaves the graph alone. -/
theorem step_reportMiss (g : Graph) : StepRunsTo reportMiss g (.ok ()) g := by
  intro why l
  unfold reportMiss
  rw [Step.run_bind_of_ok (Step.run_get _)]
  dsimp only
  cases why.bind CacheMiss.trace with
  | some trace => exact ⟨why, _, rfl⟩
  | none => exact ⟨why, _, rfl⟩

/-- Hydrating that comes to an answer gives that answer and its graph. -/
theorem step_hydrate {hit : Bool} {why : Option CacheMiss}
    (hydrated : cache.hydrate d g = .ok (hit, why, g')) :
    StepRunsTo (hydrate d cache) g (.ok hit) g' := by
  intro _ l
  unfold hydrate
  rw [Step.run_bind_of_ok (Step.run_get _), hydrated]
  exact ⟨why, l, rfl⟩

/-- Hydrating that fails leaves the graph alone. -/
theorem step_hydrate_error (raised : cache.hydrate d g = .error e) :
    StepRunsTo (hydrate d cache) g (.error e) g := by
  intro why l
  unfold hydrate
  rw [Step.run_bind_of_ok (Step.run_get _), raised]
  exact ⟨why, l, rfl⟩

/-- A rebuild begins with an empty graph. -/
theorem step_restart (missed : g.state = .cacheMiss) :
    StepRunsTo restart g (.ok ()) g.restarted := by
  intro why l
  have started : g.state.next? .rebuildStarted = some .rebuilding := by rw [missed]; rfl
  obtain ⟨why', l', ran⟩ := step_apply started why l
  unfold restart
  rw [Step.run_bind_of_ok ran]
  exact ⟨why', l', rfl⟩

/-- A phase of compiling does to the graph what compiling does. -/
theorem step_phase (step : Compile Nat) (g : Graph) :
    StepRunsTo (phase step) g ((Graph.runCompile step g).1.map fun _ => ())
      (Graph.runCompile step g).2.1 := by
  intro why l
  unfold phase
  rw [Step.run_bind_of_ok (Step.run_get _)]
  rcases Graph.runCompile step g with ⟨result, g', messages⟩
  dsimp only
  rw [Step.run_bind_of_ok (Step.run_set _ _)]
  obtain ⟨why', l', said⟩ := (actsAs_forM_info messages ⟨g', why, l⟩ g').mpr rfl
  rw [Step.run_bind_of_ok said]
  cases result <;> exact ⟨why', l', rfl⟩

/-- A failure is noted in the graph and passed on. -/
theorem step_abandon (failing : g.state.next? .failed = some .failed) (start : Nat)
    (e : Failure) : StepRunsTo (abandon start e) g (.error e) (g.goTo .failed) := by
  intro why l
  obtain ⟨why', l', ran⟩ := step_apply failing why l
  unfold abandon
  rw [Step.run_bind_of_ok ran]
  exact ⟨why', _, rfl⟩

/-- Hydrating fails for a path with a null character. -/
theorem hydrate_of_hasNull (null : Disk.hasNull path = true) (d : Disk) (g : Graph) :
    (Cache.file path).hydrate d g = .error (.file .nullCharacter) := by
  unfold Cache.hydrate
  dsimp only
  rw [Disk.read_of_hasNull null]

/-- For every other path hydrating comes to an answer, whatever stands there. -/
theorem exists_hydrate_of_path (proper : Disk.hasNull path = false) (d : Disk) (g : Graph) :
    ∃ hit why g', (Cache.file path).hydrate d g = .ok (hit, why, g') := by
  cases read : d.read path with
  | ok content => exact (Cache.hydrate_of_read read).1
  | error fault =>
    cases fault with
    | nullCharacter => exact absurd read (Disk.read_ne_nullCharacter proper)
    | failed reason source target =>
      unfold Cache.hydrate
      dsimp only
      rw [read]
      cases reason <;> exact ⟨false, _, g, rfl⟩

/-! ## Rebuilding -/

variable [SetOrder]

/-- How a procedure ends: its result, the graph, and the calls it made. -/
structure Ending where
  result : Except Failure Unit
  graph : Graph
  calls : List Call

/-- How compiling ends. The second phase follows only where the first one succeeds. -/
def compiled (d : Disk) (g : Graph) : Ending :=
  match Graph.runCompile (Graph.compileCore d) g with
  | (.error e, g₁, _) => ⟨.error e, g₁, [.compileCore]⟩
  | (.ok _, g₁, _) =>
    let (result, g₂, _) := Graph.runCompile (Graph.compileSystem d) g₁
    ⟨result.map fun _ => (), g₂, [.compileCore, .compileSystem]⟩

/-- What compiling keeps to: of the graph only the elements change, a failure is no misuse of it,
and the phases run in their order. -/
structure KeepsToPhases (g : Graph) (ending : Ending) : Prop where
  repositories : ending.graph.repositories = g.repositories
  state : ending.graph.state = g.state
  history : ending.graph.history = g.history
  proper : Result.FailsOnly Failure.NotMisuse ending.result
  succeeded : ending.result = .ok () → ending.calls = [.compileCore, .compileSystem]
  order : ending.calls = [.compileCore] ∨ ending.calls = [.compileCore, .compileSystem]

/-- Compiling keeps to its phases, whatever the sources are. -/
theorem keepsToPhases_compiled (loading : g.state.isLoading = true) (d : Disk) :
    KeepsToPhases g (compiled d g) := by
  have core := Graph.orderlyPhase_compileCore loading d
  unfold compiled
  rcases first : Graph.runCompile (Graph.compileCore d) g with ⟨result₁, g₁, messages₁⟩
  rw [first] at core
  cases result₁ with
  | error e =>
    exact ⟨core.repositories, core.state, core.history, Result.failsOnly_error (core.proper e rfl),
      fun no => (nomatch no), .inl rfl⟩
  | ok n =>
    have stillLoading : g₁.state.isLoading = true := by
      rw [show g₁.state = g.state from core.state]
      exact loading
    have system := Graph.orderlyPhase_compileSystem stillLoading d
    exact ⟨system.repositories.trans core.repositories, system.state.trans core.state,
      system.history.trans core.history, system.proper.map _, fun _ => rfl, .inr rfl⟩

/-- Rebuilding after a miss compiles an empty graph. -/
theorem calls_rebuild (cache : Cache) (missed : Graph.CacheMissed s g) :
    CallsRunTo (noted d cache).rebuild g (compiled d (Graph.emptied s)).calls
      (compiled d (Graph.emptied s)).result (compiled d (Graph.emptied s)).graph := by
  have begun : CallsRunTo ((noted d cache).own restart) g [] (.ok ()) (Graph.emptied s) := by
    rw [← missed.restarted]
    exact calls_noting (step_restart missed.state) []
  have core := calls_noting (step_phase (Graph.compileCore d) (Graph.emptied s)) [.compileCore]
  unfold compiled
  rcases first : Graph.runCompile (Graph.compileCore d) (Graph.emptied s) with ⟨result, g₁, said⟩
  rw [first] at core
  cases result with
  | error e => exact begun.bind core.bind_error
  | ok n =>
    have system := calls_noting (step_phase (Graph.compileSystem d) g₁) [.compileSystem]
    exact begun.bind (core.bind system)

/-- What rebuilding raises does not depend on what a missing cache has added. -/
theorem result_rebuild {p : Preparing} (missed : Graph.CacheMissed s p.graph) :
    ((rebuild d).run.run p).1 = (compiled d (Graph.emptied s)).result := by
  obtain ⟨calls, erased⟩ := erasesTo_rebuild d .none p []
  obtain ⟨why, l, ran⟩ := calls_rebuild (d := d) .none missed p.cache p.log []
  exact congrArg Prod.fst (erased.symm.trans ran)

/-! ## Preparing -/

/-- Filling that succeeds ends preparing. -/
theorem calls_prepare_of_fill {start : Nat}
    (filled : CallsRunTo (noted d cache).fill g calls (.ok ()) g') :
    CallsRunTo ((noted d cache).prepare start) g calls (.ok ()) g' := by
  intro why l before
  obtain ⟨why', l', ran⟩ := filled why l before
  have finished : ((noted d cache).own (log (Log.completeStep stepName start))).run.run
      (⟨g', why', l'⟩, before ++ calls) =
        (.ok ((Log.completeStep stepName start).run l').1,
          ⟨g', why', ((Log.completeStep stepName start).run l').2⟩, before ++ calls ++ []) := rfl
  unfold Parts.prepare
  rw [Step.run_bind_of_ok (Step.run_tryCatch_of_ok ran _), Step.run_bind_of_ok finished,
    List.append_nil]
  exact ⟨why', _, rfl⟩

/-- Filling that fails ends preparing with the failure, and the graph has failed. -/
theorem calls_prepare_of_error {start : Nat}
    (filled : CallsRunTo (noted d cache).fill g calls (.error e) g')
    (failing : g'.state.next? .failed = some .failed) :
    CallsRunTo ((noted d cache).prepare start) g calls (.error e) (g'.goTo .failed) := by
  have abandoned : CallsRunTo ((noted d cache).own (abandon start e)) g' [] (.error e)
      (g'.goTo .failed) :=
    calls_noting (step_abandon failing start e) []
  have caught := filled.tryCatch_error (fun e => (noted d cache).own (abandon start e)) abandoned
  rw [List.append_nil] at caught
  exact caught.bind_error

/-- The graph after a run that has rebuilt it. -/
def Ending.closed (ending : Ending) : Graph :=
  match ending.result with
  | .ok _ => ending.graph.goTo .ready
  | .error _ => ending.graph.goTo .failed

/-- If the cache serves, it is called and nothing else. -/
theorem calls_prepare_of_hit {why : Option CacheMiss} (start : Nat)
    (hydrated : cache.hydrate d (Graph.new s) = .ok (true, why, g)) :
    CallsRunTo ((noted d cache).prepare start) (Graph.new s) [.hydrate] (.ok ())
      ((g.goTo .cacheHit).goTo .ready) := by
  obtain ⟨-, state, -⟩ := Cache.hydrate_keeps hydrated
  have loaded : g.state.next? .cacheLoaded = some .cacheHit := by rw [state]; rfl
  have completed : (g.goTo .cacheHit).state.next? .completed = some .ready := rfl
  apply calls_prepare_of_fill
  have hit := calls_noting (step_hydrate hydrated) [.hydrate]
  exact hit.bind <| (calls_noting (step_apply loaded) []).bind <|
    (calls_noting (step_info _ _) []).bind <| calls_noting (step_apply completed) []

/-- If the cache misses, the graph is rebuilt, whatever the cache had added to it. -/
theorem calls_prepare_of_miss {why : Option CacheMiss} (start : Nat)
    (hydrated : cache.hydrate d (Graph.new s) = .ok (false, why, g)) :
    CallsRunTo ((noted d cache).prepare start) (Graph.new s)
      (.hydrate :: (compiled d (Graph.emptied s)).calls)
      (compiled d (Graph.emptied s)).result (compiled d (Graph.emptied s)).closed := by
  obtain ⟨repositories, state, history⟩ := Cache.hydrate_keeps hydrated
  have missing : g.state.next? .cacheMissed = some .cacheMiss := by rw [state]; rfl
  -- `g` may hold what hydrating had added before it gave up; `CacheMissed` says nothing about
  -- elements
  have missed : Graph.CacheMissed s (g.goTo .cacheMiss) :=
    ⟨repositories, rfl, congrArg (· ++ [GraphState.cacheMiss]) history⟩
  have rebuild := calls_rebuild (d := d) cache missed
  have kept := (keepsToPhases_compiled (g := Graph.emptied s) rfl d).state
  have hit := calls_noting (step_hydrate hydrated) [.hydrate]
  have applied := calls_noting (step_apply missing) []
  have reported := calls_noting (step_reportMiss (g.goTo .cacheMiss)) []
  unfold Ending.closed
  cases outcome : (compiled d (Graph.emptied s)).result with
  | error e =>
    rw [outcome] at rebuild
    refine calls_prepare_of_error ?_ (by rw [kept]; rfl)
    change CallsRunTo _ _ ([.hydrate] ++ _) _ _
    refine hit.bind ?_
    exact applied.bind (reported.bind rebuild.bind_error)
  | ok done =>
    rw [outcome] at rebuild
    have completed : (compiled d (Graph.emptied s)).graph.state.next? .completed = some .ready := by
      rw [kept]; rfl
    have finished := rebuild.bind (f := fun _ => (noted d cache).own (apply .completed))
      (calls_noting (step_apply completed) [])
    rw [List.append_nil] at finished
    apply calls_prepare_of_fill
    change CallsRunTo _ _ ([.hydrate] ++ _) _ _
    refine hit.bind ?_
    exact applied.bind (reported.bind finished)

/-- If hydrating fails, that failure ends preparing, and nothing is compiled. -/
theorem calls_prepare_of_raise (start : Nat) (raised : cache.hydrate d (Graph.new s) = .error e) :
    CallsRunTo ((noted d cache).prepare start) (Graph.new s) [.hydrate] (.error e)
      ((Graph.new s).goTo .failed) := by
  apply calls_prepare_of_error
  · exact (calls_noting (step_hydrate_error raised) [.hydrate]).bind_error
  · rfl

/-! ## Runs -/

/-- How a run ends, with the calls it made. -/
def traced (d : Disk) (s : RepositorySet) (cache : Cache) (l : Log) :
    Ending × Option CacheMiss × Log :=
  let (start, l) := (Log.beginStep stepName).run l
  let (result, p, calls) :=
    ((noted d cache).prepare start).run.run (⟨Graph.new s, cache.initial, l⟩, [])
  (⟨result, p.graph, calls⟩, p.cache, p.log)

variable {all : RepositorySet} {selected : List String}

/-- Noting the calls of a run changes nothing about it. -/
theorem run_eq_traced (sub : all.subset selected = .ok s) (cache : Cache) (l : Log) :
    run d all selected cache l =
      ((traced d s cache l).1.result.map fun _ => (traced d s cache l).1.graph,
        (traced d s cache l).2) := by
  unfold run traced
  rw [sub]
  rcases (Log.beginStep stepName).run l with ⟨start, l₁⟩
  obtain ⟨calls, erased⟩ := erasesTo_prepare d cache start ⟨Graph.new s, cache.initial, l₁⟩ []
  dsimp only
  rw [erased]
  rfl

/-- A run ends as preparing its graph does. -/
theorem traced_of_calls {result : Except Failure Unit}
    (calling : ∀ start, CallsRunTo ((noted d cache).prepare start) (Graph.new s) calls result g)
    (l : Log) : (traced d s cache l).1 = ⟨result, g, calls⟩ := by
  unfold traced
  rcases (Log.beginStep stepName).run l with ⟨start, l₁⟩
  obtain ⟨why, l', ran⟩ := calling start cache.initial l₁ []
  dsimp only
  rw [ran]
  rfl

/-- The ways for a run to end in order: its graph was served by the cache, or it was rebuilt, or
rebuilding it raised a failure. -/
inductive EndsInOrder (d : Disk) (s : RepositorySet) : Ending → Prop
  | served {g : Graph} (repositories : g.repositories = s) (state : g.state = .ready)
      (history : g.history = [.notLoaded, .cacheHit, .ready]) :
      EndsInOrder d s ⟨.ok (), g, [.hydrate]⟩
  | rebuilt {g : Graph} (repositories : g.repositories = s) (state : g.state = .ready)
      (history : g.history = [.notLoaded, .cacheMiss, .rebuilding, .ready]) :
      EndsInOrder d s ⟨.ok (), g, [.hydrate, .compileCore, .compileSystem]⟩
  | failed {g : Graph} {e : Failure} {calls : List Call} (repositories : g.repositories = s)
      (state : g.state = .failed)
      (order : calls = [.compileCore] ∨ calls = [.compileCore, .compileSystem])
      (raised : ∀ p : Preparing, Graph.CacheMissed s p.graph →
        ((rebuild d).run.run p).1 = .error e)
      (proper : e.NotMisuse) : EndsInOrder d s ⟨.error e, g, .hydrate :: calls⟩

/-- A run whose cache serves ends with the graph that was served. -/
theorem endsInOrder_of_hit {why : Option CacheMiss}
    (hydrated : cache.hydrate d (Graph.new s) = .ok (true, why, g)) (l : Log) :
    EndsInOrder d s (traced d s cache l).1 := by
  obtain ⟨repositories, -, history⟩ := Cache.hydrate_keeps hydrated
  rw [traced_of_calls (fun start => calls_prepare_of_hit start hydrated) l]
  refine .served repositories rfl ?_
  change g.history ++ [.cacheHit] ++ [.ready] = _
  rw [history]
  rfl

/-- A run whose cache misses ends with a rebuilt graph, or with what rebuilding raised. -/
theorem endsInOrder_of_miss {why : Option CacheMiss}
    (hydrated : cache.hydrate d (Graph.new s) = .ok (false, why, g)) (l : Log) :
    EndsInOrder d s (traced d s cache l).1 := by
  have kept := keepsToPhases_compiled (g := Graph.emptied s) rfl d
  have raised (p : Preparing) (missed : Graph.CacheMissed s p.graph) :=
    result_rebuild (d := d) missed
  rw [traced_of_calls (fun start => calls_prepare_of_miss start hydrated) l]
  unfold Ending.closed
  rcases outcome : compiled d (Graph.emptied s) with ⟨result, g', calls⟩
  rw [outcome] at kept raised
  cases result with
  | error e => exact .failed kept.repositories rfl kept.order raised (kept.proper e rfl)
  | ok done =>
    obtain rfl : calls = _ := kept.succeeded rfl
    refine .rebuilt kept.repositories rfl ?_
    change g'.history ++ [.ready] = _
    rw [show g'.history = _ from kept.history]
    rfl

/-- How a run ends whose cache makes hydrating fail: with that failure and a failed graph, and
nothing was compiled. -/
structure EndsUnprepared (s : RepositorySet) (e : Failure) (ending : Ending) : Prop where
  result : ending.result = .error e
  calls : ending.calls = [.hydrate]
  repositories : ending.graph.repositories = s
  state : ending.graph.state = .failed
  history : ending.graph.history = [.notLoaded, .failed]

/-- A run ends unprepared if hydrating fails. -/
theorem endsUnprepared_of_raise (raised : cache.hydrate d (Graph.new s) = .error e) (l : Log) :
    EndsUnprepared s e (traced d s cache l).1 := by
  rw [traced_of_calls (fun start => calls_prepare_of_raise start raised) l]
  exact ⟨rfl, rfl, rfl, rfl, rfl⟩

/-- Every state of the source files, every path of a cache and whatever stands there. Where
hydrating misses, a run ends as one without a cache does. Unless the path holds a null character, a
run with or without the cache calls it once and each phase of the compiler at most once, the core
first; it ends with a ready graph, or with a failed one and what rebuilding raised, which is no
misuse of the graph. If the path holds a null character, hydrating does not miss but fails, so the
run ends with that failure, a failed graph, and nothing compiled. -/
theorem run_falls_back (known : ∀ name ∈ selected, name ∈ all.names) (d : Disk) (path : Path) :
    ∃ s, all.subset selected = .ok s ∧
      (∀ cache l, run d all selected cache l =
        ((traced d s cache l).1.result.map fun _ => (traced d s cache l).1.graph,
          (traced d s cache l).2)) ∧
      (∀ why g, (Cache.file path).hydrate d (Graph.new s) = .ok (false, why, g) → ∀ l l',
        (run d all selected (.file path) l).1 = (run d all selected .none l').1 ∧
        (traced d s (.file path) l).1 = (traced d s .none l').1) ∧
      (∀ l, EndsInOrder d s (traced d s .none l).1) ∧
      (Disk.hasNull path = false → ∀ l, EndsInOrder d s (traced d s (.file path) l).1) ∧
      (Disk.hasNull path = true → ∀ l,
        EndsUnprepared s (.file .nullCharacter) (traced d s (.file path) l).1) := by
  have sub : all.subset selected = .ok (all.restrict selected) :=
    RepositorySet.subset_eq_ok.mpr ⟨known, rfl⟩
  have without : Cache.none.hydrate d (Graph.new (all.restrict selected)) =
    .ok (false, some .notConfigured, Graph.new (all.restrict selected)) := rfl
  refine ⟨_, sub, run_eq_traced sub, fun why g hydrated l l' => ?_, endsInOrder_of_miss without,
    fun proper l => ?_, fun null => endsUnprepared_of_raise (hydrate_of_hasNull null d _)⟩
  · have same : (traced d (all.restrict selected) (.file path) l).1 =
        (traced d (all.restrict selected) .none l').1 := by
      rw [traced_of_calls (fun start => calls_prepare_of_miss start hydrated) l,
        traced_of_calls (fun start => calls_prepare_of_miss start without) l']
    refine ⟨?_, same⟩
    rw [run_eq_traced sub, run_eq_traced sub, same]
  · obtain ⟨hit, why, g, hydrated⟩ := exists_hydrate_of_path proper d (Graph.new _)
    cases hit with
    | true => exact endsInOrder_of_hit hydrated l
    | false => exact endsInOrder_of_miss hydrated l

end Preparation

namespace Sample

attribute [local instance] SetOrder.asWritten

/-- The small source tree beside a snapshot that holds each element twice. -/
def doubled : Disk :=
  match repositories.fingerprints disk with
  | .ok current => { disk with entries := disk.entries ++ [(["c"], .file (Utf8.encode
      (Snapshot.text ⟨Snapshot.currentVersion, current, elements ++ elements⟩)))] }
  | .error _ => disk

/-- The doubled snapshot leaves the source trees alone. -/
theorem tree_doubled : ∀ r ∈ repositories.members, r.tree disk = r.tree doubled :=
  fun r member => (tree_eq_of_toOption (by decide +kernel) r member).symm

/-- The doubled snapshot holds every element twice, under fingerprints that are current. -/
theorem read_doubled {current : List (String × String)}
    (known : repositories.fingerprints disk = .ok current) :
    doubled.read snapshotPath = .ok (Utf8.encode
      (Snapshot.text ⟨Snapshot.currentVersion, current, elements ++ elements⟩)) := by
  unfold doubled
  rw [known]
  rfl

/-- All elements are added before the second one of a path is refused. -/
theorem exists_hydrate_doubled : ∃ why g,
    (Cache.file snapshotPath).hydrate doubled (Graph.new repositories) = .ok (false, why, g) ∧
      g.elements = elements := by
  have printed : (repositories.fingerprints disk).toOption.isSome = true := by decide +kernel
  obtain ⟨current, known⟩ := Result.exists_of_isSome printed
  have distinct := RepositorySet.nodup_fingerprints known
  have storable : Snapshot.Storable ⟨Snapshot.currentVersion, current, elements ++ elements⟩ := by
    refine ⟨rfl, distinct, fun e member => ?_⟩
    exact Graph.valid_of_rebuilt rebuilt_graph ((List.mem_append.mp member).elim id id)
  have later : repositories.fingerprints doubled = .ok current := by
    rw [← RepositorySet.fingerprints_eq_of_tree tree_doubled declares_repositories.1, known]
  have same : Snapshot.sameMap current current = true :=
    (Snapshot.sameMap_iff distinct distinct).mpr fun _ _ => Iff.rfl
  have added : (Cache.addAll (Graph.new repositories) (elements ++ elements)).1.isSome = true ∧
      (Cache.addAll (Graph.new repositories) (elements ++ elements)).2.elements = elements := by
    decide +kernel
  obtain ⟨f, failed⟩ := Option.isSome_iff_exists.mp added.1
  refine ⟨some (.notLoaded f), _, ?_, added.2⟩
  exact Cache.hydrate_of_refused storable (read_doubled known) later same (Prod.ext failed rfl)

end Sample

namespace Preparation

attribute [local instance] SetOrder.asWritten in
/-- The cache adds all elements before it fails on a second one of the same path. The run ends as
without a cache all the same. A path with a null character ends it. -/
theorem run_doubled : ∃ why added g,
    (Cache.file Sample.snapshotPath).hydrate Sample.doubled (Graph.new Sample.repositories) =
        .ok (false, why, added) ∧ added.elements = Sample.elements ∧
      (run Sample.doubled Sample.repositories ["platform", "q"] (.file Sample.snapshotPath)
        .empty).1 = .ok g ∧
      (run Sample.doubled Sample.repositories ["platform", "q"] .none .empty).1 = .ok g ∧
      (run Sample.doubled Sample.repositories ["platform", "q"] (.file (.ofParts ["c\x00"]))
        .empty).1 = .error (.file .nullCharacter) := by
  have known : ∀ name ∈ ["platform", "q"], name ∈ Sample.repositories.names := by decide
  obtain ⟨s, sub, -, falls, -⟩ := run_falls_back known Sample.doubled Sample.snapshotPath
  cases sub.symm.trans Sample.subset_repositories
  obtain ⟨s, sub, traces, -, -, -, raises⟩ :=
    run_falls_back known Sample.doubled (.ofParts ["c\x00"])
  cases sub.symm.trans Sample.subset_repositories
  have raised := (raises (by decide) .empty).result
  obtain ⟨why, added, hydrated, elements⟩ := Sample.exists_hydrate_doubled
  obtain ⟨same, -⟩ := falls why added hydrated .empty .empty
  obtain ⟨g, why', l', rebuilt⟩ := (Graph.run_none_iff Sample.subset_repositories .empty).mpr
    (Sample.wellFormed_repositories.of_tree Sample.tree_doubled)
  have without : (run Sample.doubled Sample.repositories ["platform", "q"] .none .empty).1 =
      .ok g := congrArg Prod.fst rebuilt
  refine ⟨why, added, g, hydrated, elements, same.trans without, without, ?_⟩
  rw [traces, raised]
  rfl

end Preparation

end ModelForge
