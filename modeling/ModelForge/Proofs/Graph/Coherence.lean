import ModelForge.Code.Generation
import ModelForge.Metadata.Unit
import ModelForge.Proofs.Graph.Stored

/-! # Snapshots and rebuilds

What a cache serves is what a rebuild stored. While definitions and source files stay as they are, a
selection is served exactly when it has the closure of the stored one, and what is made of the graph
is the same as after a rebuild (`ModelForge.Cache.hydrate_iff_closure`). When definitions and source
files change, whatever is served is what the later source files declare; a rebuild gives the same
elements, unless the later definitions have become circular or no longer let a reference through,
which the fingerprints do not cover (`ModelForge.Cache.rebuild_of_hydrated`).
-/

namespace ModelForge

/-! ## The small source tree, stored -/

namespace Sample

open RepositorySet (SamePrints FingerprintsSeparate)

attribute [local instance] SetOrder.asWritten

/-- Where the snapshot is stored. -/
def snapshotPath : Path := .ofParts ["c"]

/-- The world in which the snapshot of the small source tree is stored. -/
def stored : World := (Run.perform (Cache.store graph snapshotPath) ⟨disk, .empty⟩).2

/-- The sample's graph is stored at its path. -/
theorem store_graph :
    Run.perform (Cache.store graph snapshotPath) ⟨disk, .empty⟩ = (.ok (), stored) := by
  have computed : (Run.perform (Cache.store graph snapshotPath) ⟨disk, .empty⟩).1.toOption.isSome =
    true := by decide +kernel
  obtain ⟨⟨⟩, done⟩ := Result.exists_of_isSome computed
  exact Prod.ext done rfl

/-- The small source tree is rebuilt and stored. -/
theorem exists_stored_run : ∃ g miss l',
    Preparation.run disk repositories ["platform", "q"] .none .empty = (.ok g, miss, l') ∧
      GraphState.rebuilding ∈ g.history ∧ Graph.SameButHistory g graph ∧
      Run.perform (Cache.store g snapshotPath) ⟨disk, .empty⟩ = (.ok (), stored) := by
  obtain ⟨g, miss, l', done, rebuilding, alike⟩ := exists_run
  refine ⟨g, miss, l', done, rebuilding, alike, ?_⟩
  rw [Cache.store_of_sameButHistory alike]
  exact store_graph

/-- Source trees are the same if the evaluated ones are. -/
theorem tree_eq_of_toOption {d : Disk} (computed : ∀ r ∈ repositories.members,
    (r.tree d).toOption = (r.tree disk).toOption) :
    ∀ r ∈ repositories.members, r.tree d = r.tree disk := by
  intro r member
  obtain ⟨t, known⟩ := Repository.tree_of_readable (declares_repositories.1 r member)
  have same := computed r member
  rw [known] at same
  rw [known, Result.toOption_eq_some.mp same]

/-- Storing the graph leaves the source trees alone. -/
theorem tree_stored : ∀ r ∈ repositories.members, r.tree stored.disk = r.tree disk :=
  tree_eq_of_toOption (by decide +kernel)

/-- The repositories after the definition of one has dropped its dependency. -/
def loosened : RepositorySet where
  members := [⟨"platform", [], .ofParts ["p"], legal_platform⟩, ⟨"q", [], .ofParts ["q"], legal_q⟩]
  ascending := by decide
  closed := by decide

/-- Fingerprints tell the source trees of the sample apart, with and without the dependency. -/
theorem separate_loosened : FingerprintsSeparate disk repositories stored.disk loosened := by
  have roots : ∀ r ∈ repositories.members, ∀ r' ∈ loosened.members, r.name = r'.name →
      r.root = r'.root := by decide
  intro r member r' member' name _ _ _
  rw [← tree_stored r member]
  exact Repository.tree_eq_of_root (roots r member r' member' name)

/-- Without the dependency the fingerprints are those of before. -/
theorem fingerprints_loosened {current : List (String × String)}
    (known : repositories.fingerprints disk = .ok current) :
    loosened.fingerprints stored.disk = .ok current := by
  have same : loosened.fingerprints stored.disk = repositories.fingerprints stored.disk := rfl
  rw [same, ← known]
  exact (RepositorySet.fingerprints_eq_of_tree (fun r member => (tree_stored r member).symm)
    declares_repositories.1).symm

/-- But what it referred to is no longer visible. -/
theorem not_sees_loosened : ¬ loosened.Sees "q" "platform" := by
  rintro ⟨path, -⟩
  rcases Relation.ReflTransGen.cases_head path with same | ⟨next, ⟨r, member, -, inside⟩, -⟩
  · exact absurd same (by decide)
  · simp only [loosened, List.mem_cons, List.not_mem_nil, or_false] at member
    rcases member with rfl | rfl <;> cases inside

/-- Without the dependency the supertype is out of sight. -/
theorem not_resolved_loosened : ¬ ∀ e ∈ elements, Graph.Resolved loosened.Sees elements e := by
  intro each
  obtain ⟨target, member, path, -, seen⟩ :=
    (each _ (List.mem_cons_of_mem _ List.mem_cons_self)).supertypes "p::A" List.mem_cons_self
  have core : target.repository = "platform" := by
    simp only [elements, List.mem_cons, List.not_mem_nil, or_false] at member
    rcases member with rfl | rfl
    · rfl
    · exact absurd path (by decide)
  rw [core] at seen
  exact not_sees_loosened seen

end Sample

namespace Cache

open ModelForge.Graph (SameButHistory)
open RepositorySet (SamePrints FingerprintsSeparate)

variable {d d₁ d₂ : Disk} {g g' : Graph} {w w' : World} {path : Path}
  {s s' all all' : RepositorySet} {cache : Cache} {selected selected' : List String} {l l' : Log}
  {miss miss' : Option CacheMiss}

/-- Whatever a stored graph is served for later, however definitions and source files have changed,
is what the source files then declare; a rebuild that succeeds gives the same elements. It succeeds
exactly if the definitions then are not circular and let every reference of these elements through,
which the fingerprints do not cover. -/
theorem rebuild_of_hydrated [SetOrder]
    (done : Preparation.run d₁ all selected cache l = (.ok g, miss, l'))
    (rebuilding : GraphState.rebuilding ∈ g.history)
    (stored : Run.perform (store g path) w = (.ok (), w'))
    (unchanged : ∀ r ∈ g.repositories.members, r.tree w.disk = r.tree d₁)
    (kept : d₂.read path = w'.disk.read path) (sub : all'.subset selected' = .ok s')
    (separate : FingerprintsSeparate d₁ g.repositories d₂ s')
    (hydrated : hydrate d₂ (.file path) (Graph.new s') = .ok (true, miss', g')) (log : Log) :
    g'.elements = g.elements ∧ g'.elements.Perm (s'.declares d₂) ∧
      (∀ later why log', Preparation.run d₂ all' selected' .none log = (.ok later, why, log') →
        later.elements = g'.elements) ∧
      ((∃ later why log',
          Preparation.run d₂ all' selected' .none log = (.ok later, why, log')) ↔
        s'.Acyclic ∧ ∀ e ∈ g'.elements, Graph.Resolved s'.Sees g'.elements e) := by
  obtain ⟨s, -, rebuilt⟩ := Graph.rebuilt_of_run done rebuilding
  have repositories := rebuilt.repositories
  subst repositories
  obtain ⟨current, known, read⟩ := exists_stored rebuilt stored unchanged kept
  obtain ⟨-, whole, hits⟩ := hydrate_stored (fun e => Graph.valid_of_rebuilt rebuilt)
    (RepositorySet.nodup_fingerprints known) read s'
  obtain ⟨-, -, -, elements⟩ := whole miss' g' hydrated
  obtain ⟨current', known', same⟩ := hits.mp ⟨miss', g', hydrated⟩
  obtain ⟨readable, declares⟩ := RepositorySet.declares_eq_of_samePrints known known' same separate
    rebuilt.wellFormed.readable
  have all_declared : g'.elements.Perm (s'.declares d₂) := by
    rw [elements, ← declares]
    exact rebuilt.elements
  refine ⟨elements, all_declared, ?_, ?_⟩
  · intro later why log' ran
    have rebuilt' := (Graph.rebuilt_of_run_none sub ran).1
    exact Graph.elements_eq_of_perm (rebuilt'.elements.trans all_declared.symm)
  · rw [Graph.run_none_iff sub log]
    have resolved (e : Element) : Graph.Resolved s'.Sees (s'.declares d₂) e ↔
        Graph.Resolved s'.Sees g'.elements e :=
      Graph.resolved_congr fun target => all_declared.mem_iff.symm
    constructor
    · intro wellFormed
      exact ⟨wellFormed.acyclic, fun e member =>
        (resolved e).mp (wellFormed.resolved e (all_declared.mem_iff.mp member))⟩
    · rintro ⟨acyclic, each⟩
      refine ⟨acyclic, readable, ?_, fun e member =>
        (resolved e).mpr (each e (all_declared.mem_iff.mpr member))⟩
      rw [← declares]
      exact rebuilt.wellFormed.distinct

attribute [local instance] SetOrder.asWritten in
/-- The snapshot of the small source tree is served after a definition has dropped a dependency, but
a rebuild then fails. -/
theorem hydrate_loosened : ∃ g',
    hydrate Sample.stored.disk (.file Sample.snapshotPath) (Graph.new Sample.loosened) =
        .ok (true, Option.none, g') ∧
      g'.elements = Sample.elements ∧ ∀ log, ¬ ∃ later why log',
        Preparation.run Sample.stored.disk Sample.loosened ["platform", "q"] .none log =
          (.ok later, why, log') := by
  obtain ⟨g, miss, l', done, rebuilding, alike, stored⟩ := Sample.exists_stored_run
  have rebuilt := (Graph.rebuilt_of_run_none Sample.subset_repositories done).1
  have sub : Sample.loosened.subset ["platform", "q"] = .ok Sample.loosened :=
    RepositorySet.subset_names Sample.loosened
  obtain ⟨current, known, read⟩ := exists_stored rebuilt stored (fun _ _ => rfl) rfl
  obtain ⟨-, whole, hits⟩ := hydrate_stored (fun e => Graph.valid_of_rebuilt rebuilt)
    (RepositorySet.nodup_fingerprints known) read Sample.loosened
  obtain ⟨miss', g', hydrated⟩ :=
    hits.mpr ⟨current, Sample.fingerprints_loosened known, fun _ _ => Iff.rfl⟩
  obtain ⟨rfl, -⟩ := whole miss' g' hydrated
  have separate :
      FingerprintsSeparate Sample.disk g.repositories Sample.stored.disk Sample.loosened := by
    rw [alike.repositories]
    exact Sample.separate_loosened
  have coherent := rebuild_of_hydrated done rebuilding stored (fun _ _ => rfl) rfl sub separate
    hydrated
  have elements : g'.elements = Sample.elements := (coherent .empty).1.trans alike.elements
  refine ⟨g', hydrated, elements, fun log later => ?_⟩
  obtain ⟨-, resolved⟩ := (coherent log).2.2.2.mp later
  rw [elements] at resolved
  exact Sample.not_resolved_loosened resolved

/-! ## The same definitions and source files -/

/-- What is made of a graph does not depend on its history. -/
theorem outputs_of_sameButHistory (alike : SameButHistory g g') :
    (∀ u, Metadata.serialize g u = Metadata.serialize g' u) ∧
      ∀ plan external, Code.generate g plan external = Code.generate g' plan external := by
  rw [alike.eq]
  exact ⟨fun _ => rfl, fun _ _ => rfl⟩

/-- A graph that the cache serves is made ready. Nothing is read for it but the snapshot, so the
order of sets makes no difference. -/
theorem run_of_hit (order : SetOrder) (sub : all.subset selected = .ok s)
    (hydrated : hydrate d (.file path) (Graph.new s) = .ok (true, miss, g)) (log : Log) :
    ∃ ready why log',
      @Preparation.run order d all selected (.file path) log = (.ok ready, why, log') ∧
      ready.repositories = g.repositories ∧ ready.state = .ready ∧
      ready.elements = g.elements := by
  obtain ⟨-, state, -⟩ := hydrate_keeps hydrated
  have loaded : g.apply .cacheLoaded =
      .ok { g with state := .cacheHit, history := g.history ++ [.cacheHit] } :=
    Graph.apply_eq_ok.mpr ⟨.cacheHit, by rw [state]; rfl, rfl⟩
  have fills : Preparation.FillsGraph d (.file path) (Graph.new s)
      { g with state := .ready, history := g.history ++ [.cacheHit] ++ [.ready] } :=
    ⟨true, miss, g, hydrated, .inl ⟨rfl, _, loaded, rfl⟩⟩
  have ran : ∃ why log', Preparation.run d all selected (.file path) log = (.ok _, why, log') :=
    Preparation.run_eq_ok.mpr ⟨s, sub, fills⟩
  obtain ⟨why, log', ran⟩ := ran
  exact ⟨_, why, log', ran, rfl, rfl, rfl⟩

/-- The members of a set from the last one to the first. -/
@[reducible]
def backwards : SetOrder := ⟨List.reverse, List.reverse_perm⟩

end Cache

end ModelForge
