import ModelForge.Command.Outcome
import ModelForge.Proofs.Graph.Adding
import ModelForge.Proofs.Outcome
import ModelForge.Proofs.Repository.Restricted
import ModelForge.Proofs.Run
import ModelForge.Proofs.Text.RepositoryNames

/-! # The order in which repositories are compiled

A phase of compiling says of each repository that it is being loaded, one after the other in the
order it was given them (`ModelForge.Graph.announces_compilePhase`). Together with the orders of
subsets this tells in which order the repositories of a selection are compiled: in the order in
which all repositories are listed, but for the core repository, which comes first
(`ModelForge.Graph.order_of_selection`).
-/

namespace ModelForge

namespace Graph

variable {d : Disk} {g : Graph} {s sub : RepositorySet} {r : Repository} {given : List String}
  {rs order : List Repository} {before : List String}

/-! ## Phases -/

/-- What is said of a repository when its source files are loaded. -/
def announcement (d : Disk) (phase : String) (r : Repository) : String :=
  s!"Loading {phase} repository '{r.name}' ({((r.sources d).toOption.getD []).length} sources)"

/-- What is said when a phase is done. -/
def closing (phase : String) (n : Nat) : String := s!"Compiled {n} {phase} elements"

/-- The graph being compiled is over some repositories, and some messages have been said. -/
def LoadingSays (s : RepositorySet) (messages : List String) (l : Loading) : Prop :=
  l.graph.repositories = s ∧ l.messages = messages

theorem loadingSays_orThrow {α : Type} (x : Except Failure α) :
    Step.Preserves (LoadingSays s before) (fun _ => True) (orThrow x) := by
  cases x with
  | ok a => exact Step.preserves_pure a
  | error f => exact Step.preserves_throw trivial

/-- Declaring an element leaves the repositories and the messages alone. -/
theorem loadingSays_declare (e : Element) :
    Step.Preserves (LoadingSays s before) (fun _ => True) (declare e) := by
  unfold declare
  refine Step.Preserves.get_bind fun l said => ?_
  cases l.graph.get? e.path with
  | some first => exact Step.preserves_throw trivial
  | none =>
    cases added : l.graph.add e with
    | error f => exact Step.preserves_throw trivial
    | ok g =>
      have same := (new_of_add added).2.2.repositories
      exact Step.preserves_set ⟨same.trans said.1, said.2⟩

/-- Loading a file leaves the repositories and the messages alone. -/
theorem loadingSays_loadFile [SetOrder] (d : Disk) (r : Repository) (p : Path) :
    Step.Preserves (LoadingSays s before) (fun _ => True) (loadFile d r p) := by
  unfold loadFile
  refine (loadingSays_orThrow _).bind fun elements => ?_
  exact (Step.Preserves.forM fun e _ => loadingSays_declare e).bind fun _ =>
    Step.preserves_pure elements

/-- Saying a text adds it to the messages. -/
theorem triple_say (text : String) : Step.Triple (LoadingSays s before)
    (fun _ => LoadingSays s (before ++ [text])) (fun _ => LoadingSays s before) (say text) := by
  refine Step.triple_of_run (fun _ => rfl) (fun l _ said _ => ?_) fun _ _ _ no => nomatch no
  exact ⟨said.1, congrArg (· ++ [text]) said.2⟩

/-- A repository is announced before its files are read, unless they cannot even be found. -/
theorem triple_loadRepository [SetOrder] (d : Disk) (phase : String) (r : Repository) :
    Step.Triple (LoadingSays s before) (fun _ => LoadingSays s (before ++ [announcement d phase r]))
      (fun _ l => LoadingSays s before l ∨ LoadingSays s (before ++ [announcement d phase r]) l)
      (loadRepository d phase r) := by
  unfold loadRepository
  cases found : r.sources d with
  | error f => exact Step.triple_throw fun l said => .inl said
  | ok files =>
    have text : announcement d phase r =
        s!"Loading {phase} repository '{r.name}' ({files.length} sources)" := by
      unfold announcement
      rw [found]
      rfl
    rw [text]
    have listing {fails : Failure → Loading → Prop} : Step.Triple (LoadingSays s before)
        (fun a l => a = files ∧ LoadingSays s before l) fails (orThrow (Disk.orFail (.ok files))) :=
      Step.triple_pure fun l said => ⟨rfl, said⟩
    refine listing.bind fun listed => Step.triple_of_imp fun same => ?_
    subst same
    refine ((triple_say _).fails fun _ l => .inl).bind fun _ => ?_
    refine Step.Triple.bind ?_ fun parts => Step.triple_pure fun l said => said
    exact (Step.Preserves.mapM fun p _ => loadingSays_loadFile d r p).triple.fails fun _ l => .inr

/-- Loading some repositories says so of each in turn, up to the one that fails. -/
theorem triple_mapM_loadRepository [SetOrder] (d : Disk) (phase : String) (rs : List Repository) :
    Step.Triple (LoadingSays s before)
      (fun _ => LoadingSays s (before ++ rs.map (announcement d phase)))
      (fun _ l => ∃ loaded, loaded <+: rs ∧
        LoadingSays s (before ++ loaded.map (announcement d phase)) l)
      (rs.mapM (loadRepository d phase)) := by
  have each := Step.Triple.mapM
    (fun done => LoadingSays s (before ++ done.map (announcement d phase)))
    (fun done r _ l => LoadingSays s (before ++ done.map (announcement d phase)) l ∨
      LoadingSays s (before ++ (done ++ [r]).map (announcement d phase)) l) rs fun done r => by
    simpa only [List.map_append, List.map_singleton, ← List.append_assoc] using
      triple_loadRepository d phase r
  refine each.weaken (fun l said => ?_) (fun _ l => id) ?_
  · simpa using said
  · rintro f l ⟨done, r, others, rfl, said | said⟩
    · exact ⟨done, List.prefix_append _ _, said⟩
    · exact ⟨done ++ [r], List.append_cons done r others ▸ List.prefix_append _ _, said⟩

/-- What comes of a phase for some repositories: the graph is over the same set, and each repository
was announced in turn; a phase that failed got only to the first ones. -/
def Announces (d : Disk) (phase : String) (s : RepositorySet) (rs : List Repository) :
    Except Failure Nat × Graph × List String → Prop
  | (.ok n, g, messages) => g.repositories = s ∧
    messages = rs.map (announcement d phase) ++ [closing phase n]
  | (.error _, g, messages) => g.repositories = s ∧
    ∃ loaded, loaded <+: rs ∧ messages = loaded.map (announcement d phase)

/-- A phase announces each repository and closes with the number of elements; one that fails has
announced some of them, from the first on. -/
theorem triple_compilePhase [SetOrder] (d : Disk) (phase : String) (rs : List Repository) :
    Step.Triple (LoadingSays s [])
      (fun n => LoadingSays s (rs.map (announcement d phase) ++ [closing phase n]))
      (fun _ l => ∃ loaded, loaded <+: rs ∧ LoadingSays s (loaded.map (announcement d phase)) l)
      (compilePhase d phase rs) := by
  have loaded : Step.Triple (LoadingSays s []) _ _ (rs.mapM (loadRepository d phase)) :=
    triple_mapM_loadRepository d phase rs
  simp only [List.nil_append] at loaded
  unfold compilePhase
  refine loaded.bind fun parts => Step.Triple.get_bind fun l said => ?_
  have whole {f : Failure} {l : Loading} (said : LoadingSays s (rs.map (announcement d phase)) l) :
      ∃ loaded, loaded <+: rs ∧ LoadingSays s (loaded.map (announcement d phase)) l :=
    ⟨rs, List.prefix_refl rs, said⟩
  refine ((loadingSays_orThrow _).triple.fails fun f l => whole (f := f)).bind fun _ => ?_
  refine ((triple_say _).fails fun f l => whole (f := f)).bind fun _ => ?_
  exact Step.triple_pure fun l said => said

/-- What holds of the messages of a phase holds of its outcome. -/
theorem announces_of_triple {step : Compile Nat} {phase : String} (same : g.repositories = s)
    (yields : Step.Triple (LoadingSays s [])
      (fun n => LoadingSays s (rs.map (announcement d phase) ++ [closing phase n]))
      (fun _ l => ∃ loaded, loaded <+: rs ∧ LoadingSays s (loaded.map (announcement d phase)) l)
      step) :
    Announces d phase s rs (runCompile step g) := by
  obtain ⟨done, fails⟩ := yields ⟨g, []⟩ ⟨same, rfl⟩
  unfold runCompile
  rcases ran : step.run.run ⟨g, []⟩ with ⟨result, l⟩
  cases result with
  | ok n => exact done n l ran
  | error f =>
    obtain ⟨loaded, first, kept, said⟩ := fails f l ran
    exact ⟨kept, loaded, first, said⟩

/-- A phase announces the repositories it is given. -/
theorem announces_compilePhase [SetOrder] (same : g.repositories = s) (phase : String) :
    Announces d phase s rs (runCompile (compilePhase d phase rs) g) :=
  announces_of_triple same (triple_compilePhase d phase rs)

/-- The first phase announces the core repository, if there is one. -/
theorem announces_compileCore [SetOrder] (same : g.repositories = s) :
    Announces d "core" s (s.members.filter Repository.isCore) (runCompile (compileCore d) g) := by
  rw [← same]
  exact announces_compilePhase rfl "core"

/-- The second phase announces the others in the order of their dependencies. -/
theorem announces_compileSystem [SetOrder] (same : g.repositories = s)
    (ordered : s.dependencyOrder = .ok order) :
    Announces d "system" s (order.filter fun r => !r.isCore) (runCompile (compileSystem d) g) := by
  have ordering : runCompile (compileSystem d) g =
      runCompile (compilePhase d "system" (order.filter fun r => !r.isCore)) g := by
    unfold runCompile compileSystem
    rw [Step.run_bind_of_ok (Step.run_get _)]
    dsimp only
    rw [same, ordered]
    rfl
  rw [ordering]
  exact announces_compilePhase same "system"

end Graph

namespace RepositorySet

variable {s : RepositorySet} {order : List Repository}

/-- An order has the core repository that the set has. -/
theorem filter_isCore_of_perm (same : order.Perm s.members) :
    order.filter Repository.isCore = s.members.filter Repository.isCore := by
  have single : (s.members.filter Repository.isCore).Pairwise fun _ _ => False := by
    refine (s.ascending.sublist List.filter_sublist).imp_of_mem fun ofA ofB less => ?_
    have coreA := beq_iff_eq.mp (List.mem_filter.mp ofA).2
    have coreB := beq_iff_eq.mp (List.mem_filter.mp ofB).2
    rw [coreA, coreB] at less
    exact String.lt_irrefl _ less
  have perm := same.filter Repository.isCore
  exact List.Perm.eq_of_pairwise (fun _ _ _ _ no => no.elim)
    (single.perm perm.symm fun no => no.elim) single perm

end RepositorySet

namespace Graph

variable {d : Disk} {s sub : RepositorySet} {given : List String} {order : List Repository}

/-- What the list of all repositories shows. -/
theorem run_list [SetOrder] {around : Surroundings} {extra : List String} {w : World}
    (found : Discovery.everywhere.discover around w.disk extra = .ok s)
    (ordered : s.dependencyOrder = .ok order) :
    Run.perform (Command.list around extra) w =
      (.ok [.table "Repositories" ["Name", "Dependencies", "Root"] (order.map Command.row),
        .line s!"{order.length} repositories"], w) := by
  unfold Run.perform Command.list
  rw [Step.run_bind_of_ok (Step.run_get w), found, Step.run_bind_of_ok (Run.run_orThrow _ w),
    ordered, Step.run_bind_of_ok (Run.run_orThrow _ w)]
  rfl

/-- Any selection from repositories that can be ordered can be ordered, and its order is the order
of all without those that are not selected. The list of repositories shows them in the order of all.
A graph of the selection is compiled in the same order, but for the core repository, which is
compiled before all others wherever it is listed. -/
theorem order_of_selection [SetOrder] (ordered : s.dependencyOrder = .ok order)
    (known : ∀ n ∈ given, n ∈ s.names) :
    ∃ sub, s.subset given = .ok sub ∧
      sub.dependencyOrder = .ok (order.filter fun r => sub.contains r.name) ∧
      (∀ around extra w, Discovery.everywhere.discover around w.disk extra = .ok s →
        Run.perform (Command.list around extra) w =
          (.ok [.table "Repositories" ["Name", "Dependencies", "Root"] (order.map Command.row),
            .line s!"{order.length} repositories"], w)) ∧
      ∀ d g, g.repositories = sub →
        Announces d "core" sub
          ((order.filter fun r => sub.contains r.name).filter Repository.isCore)
          (runCompile (compileCore d) g) ∧
        Announces d "system" sub
          ((order.filter fun r => sub.contains r.name).filter fun r => !r.isCore)
          (runCompile (compileSystem d) g) := by
  have made : s.subset given = .ok (s.restrict given) :=
    RepositorySet.subset_eq_ok.mpr ⟨known, rfl⟩
  have part := RepositorySet.dependencyOrder_subset ordered made
  refine ⟨_, made, part, fun _ _ _ found => run_list found ordered, fun d g same => ⟨?_, ?_⟩⟩
  · rw [RepositorySet.filter_isCore_of_perm (RepositorySet.perm_of_dependencyOrder part)]
    exact announces_compileCore same
  · exact announces_compileSystem same part

end Graph

/-! ## A repository listed before the core repository -/

attribute [local instance] SetOrder.asWritten

namespace Sample

/-- The core repository. -/
def platform : Repository := ⟨"platform", [], .ofParts ["platform"], legal_platform⟩

/-- A repository that is listed before the core repository. -/
def alpha : Repository := ⟨"alpha", [], .ofParts ["alpha"], by decide⟩

/-- A repository that depends on both. -/
def beta : Repository := ⟨"beta", ["alpha", "platform"], .ofParts ["beta"], by decide⟩

/-- A repository that nothing depends on. -/
def gamma : Repository := ⟨"gamma", [], .ofParts ["gamma"], by decide⟩

/-- The four repositories together. -/
def crossed : RepositorySet where
  members := [alpha, beta, gamma, platform]
  ascending := by decide
  closed := by decide

/-- The order of all four. -/
def crossedOrder : List Repository := [alpha, gamma, platform, beta]

theorem ordered_crossed : crossed.dependencyOrder = .ok crossedOrder :=
  Result.toOption_eq_some.mp (by decide +kernel)

end Sample

namespace Graph

open Sample

/-- Of four repositories three are selected, since the third one depends on the others. -/
theorem order_of_crossed : ∃ sub, crossed.subset ["beta"] = .ok sub ∧
    sub.dependencyOrder = .ok [alpha, platform, beta] ∧
    ∀ d, Announces d "system" sub [alpha, beta] (runCompile (compileSystem d) (new sub)) := by
  have known : ∀ n ∈ ["beta"], n ∈ crossed.names := by decide
  obtain ⟨sub, made, ordered, -, compiled⟩ := order_of_selection ordered_crossed known
  have part : crossedOrder.filter (fun r => sub.contains r.name) = [alpha, platform, beta] := by
    rw [← (RepositorySet.subset_eq_ok.mp made).2]
    simp [crossedOrder, crossed, alpha, beta, gamma, platform, RepositorySet.restrict,
      RepositorySet.contains, RepositorySet.names, RepositorySet.closure, RepositorySet.reach,
      RepositorySet.dependenciesOf]
  rw [part] at ordered compiled
  exact ⟨sub, made, ordered, fun d => (compiled d (new sub) rfl).2⟩

/-- The core repository is compiled before a repository that is listed before it. -/
theorem core_before_listed : crossed.dependencyOrder = .ok crossedOrder ∧
    (crossedOrder.map Repository.name).take 3 = ["alpha", "gamma", "platform"] ∧
    crossed.subset crossed.names = .ok crossed ∧
    (runCompile (compileCore ⟨[], []⟩) (new crossed)).2.2 =
      ["Loading core repository 'platform' (0 sources)", "Compiled 0 core elements"] ∧
    (runCompile (compileSystem ⟨[], []⟩) (new crossed)).2.2.head? =
      some "Loading system repository 'alpha' (0 sources)" :=
  ⟨ordered_crossed, rfl, RepositorySet.subset_names _, by decide +kernel, by decide +kernel⟩

end Graph

end ModelForge
