import ModelForge.Graph.Compile
import ModelForge.Proofs.Graph.Adding
import ModelForge.Proofs.Repository.Declared
import ModelForge.Proofs.Repository.Dependencies

/-! # The phases of compiling

A phase of compiling succeeds exactly when its source files can be read, the declared paths are
distinct and new, and every reference resolves (`ModelForge.Graph.succeedsWith_compilePhase`). Both
phases together succeed exactly when the core repository compiles on its own and the others, which
can be ordered, on top of it (`ModelForge.Graph.compiles_iff`).
-/

namespace ModelForge

namespace Element

/-- The paths of the supertypes of a class. -/
def supertypes (e : Element) : List String :=
  match e.body with
  | .classBody supertypes _ => supertypes
  | .enumerationBody _ => []

/-- The properties of a class. -/
def properties (e : Element) : List Property :=
  match e.body with
  | .classBody _ properties => properties
  | .enumerationBody _ => []

end Element

namespace Graph

open Cache (addAll)

variable {d : Disk} {g g' : Graph} {e target : Element} {es : List Element} {path : String}
  {visible : List String} {sees : String → String → Prop} {l : Loading} {r : Repository}
  {rs : List Repository}

/-! ## References -/

/-- All references of an element lead to elements of a list that its repository sees. -/
structure Resolved (sees : String → String → Prop) (es : List Element) (e : Element) : Prop where
  supertypes : ∀ path ∈ e.supertypes, ∃ target ∈ es,
    target.path = path ∧ target.isClass = true ∧ sees e.repository target.repository
  types : ∀ p ∈ e.properties, Element.isPrimitive p.type = true ∨ ∃ target ∈ es,
    target.path = p.type ∧ sees e.repository target.repository

/-- A reference finds an element of its path in a visible repository. -/
theorem lookUp_eq_ok : g.lookUp e path visible = .ok target ↔
    target ∈ g.elements ∧ target.path = path ∧ target.repository ∈ visible := by
  unfold lookUp
  cases found : g.get? path with
  | none =>
    refine ⟨fun no => (nomatch no), fun ⟨member, same, _⟩ => ?_⟩
    rw [get?_eq_some.mpr ⟨member, same⟩] at found
    cases found
  | some first =>
    obtain ⟨member, same⟩ := get?_eq_some.mp found
    dsimp only
    constructor
    · intro done
      split at done
      · next seen =>
        cases done
        exact ⟨member, same, List.contains_iff_mem.mp seen⟩
      · cases done
    · rintro ⟨member', same', seen⟩
      have only : g.get? path = some target := get?_eq_some.mpr ⟨member', same'⟩
      rw [found] at only
      cases only
      rw [if_pos (List.contains_iff_mem.mpr seen)]

/-- A supertype resolves exactly if it is a class in a visible repository. -/
theorem resolveSupertype_eq_ok : g.resolveSupertype e visible path = .ok () ↔
    ∃ target ∈ g.elements, target.path = path ∧ target.isClass = true ∧
      target.repository ∈ visible := by
  unfold resolveSupertype
  rw [Result.bind_eq_ok]
  constructor
  · rintro ⟨target, found, done⟩
    obtain ⟨member, same, seen⟩ := lookUp_eq_ok.mp found
    split at done
    · next isClass => exact ⟨target, member, same, isClass, seen⟩
    · cases done
  · rintro ⟨target, member, same, isClass, seen⟩
    exact ⟨target, lookUp_eq_ok.mpr ⟨member, same, seen⟩, by rw [if_pos isClass]; rfl⟩

/-- The type of a property resolves exactly if it is primitive or stands in a visible repository. -/
theorem resolveProperty_eq_ok {p : Property} : g.resolveProperty e visible p = .ok () ↔
    Element.isPrimitive p.type = true ∨ ∃ target ∈ g.elements,
      target.path = p.type ∧ target.repository ∈ visible := by
  unfold resolveProperty
  split
  · next primitive => exact ⟨fun _ => .inl primitive, fun _ => rfl⟩
  · next complex =>
    rw [or_iff_right complex]
    constructor
    · intro done
      cases found : g.lookUp e p.type visible with
      | ok target => exact ⟨target, lookUp_eq_ok.mp found⟩
      | error f =>
        rw [found] at done
        cases done
    · rintro ⟨target, only⟩
      rw [lookUp_eq_ok.mpr only]
      rfl

/-- The references of an element are checked against what its repository can reach. -/
theorem resolve_eq_ok (known : e.repository ∈ g.repositories.names) :
    g.resolve e = .ok () ↔ Resolved g.repositories.Reaches g.elements e := by
  obtain ⟨visible, sees, each⟩ := RepositorySet.visibleFrom_of_mem known
  have resolved : Resolved g.repositories.Reaches g.elements e ↔
      (∀ path ∈ e.supertypes, g.resolveSupertype e visible path = .ok ()) ∧
        ∀ p ∈ e.properties, g.resolveProperty e visible p = .ok () := by
    simp only [resolveSupertype_eq_ok, resolveProperty_eq_ok, each]
    exact ⟨fun ⟨supertypes, types⟩ => ⟨supertypes, types⟩,
      fun ⟨supertypes, types⟩ => ⟨supertypes, types⟩⟩
  rw [resolved]
  unfold resolve Element.supertypes Element.properties
  cases e.body with
  | enumerationBody values =>
    exact ⟨fun _ => ⟨fun _ none => (nomatch none), fun _ none => (nomatch none)⟩, fun _ => rfl⟩
  | classBody supertypes properties =>
    dsimp only
    rw [sees, Result.bind_eq_ok]
    simp only [Except.ok.injEq, exists_eq_left']
    rw [Result.bind_eq_ok, Result.forM_eq_ok]
    exact ⟨fun ⟨(), first, second⟩ => ⟨Result.forM_eq_ok.mp first, second⟩,
      fun ⟨first, second⟩ => ⟨(), Result.forM_eq_ok.mpr first, second⟩⟩

/-! ## Phases -/

/-- A step succeeds from a loading graph with a result and a graph, whatever it says. -/
def SucceedsWith {α : Type} (step : Compile α) (l : Loading) (a : α) (g' : Graph) : Prop :=
  ∃ messages, step.run.run l = (.ok a, ⟨g', messages⟩)

theorem run_orThrow_eq_ok {α : Type} {result : Except Failure α} {a : α} {l' : Loading} :
    (orThrow result).run.run l = (.ok a, l') ↔ result = .ok a ∧ l' = l := by
  cases result with
  | error f =>
    refine ⟨fun failed => ?_, fun ⟨no, _⟩ => (nomatch no)⟩
    cases congrArg Prod.fst failed
  | ok b =>
    constructor
    · intro done
      cases done
      exact ⟨rfl, rfl⟩
    · rintro ⟨same, rfl⟩
      cases same
      rfl

/-- A declared element is added to the graph. -/
theorem run_declare_eq_ok {l' : Loading} : (declare e).run.run l = (.ok (), l') ↔
    ∃ g', l.graph.add e = .ok g' ∧ l' = { l with graph := g' } := by
  unfold declare
  rw [Step.run_bind_of_ok (Step.run_get l)]
  cases found : l.graph.get? e.path with
  | some first =>
    refine ⟨fun failed => ?_, fun ⟨g', added, _⟩ => ?_⟩
    · cases congrArg Prod.fst failed
    · rw [(new_of_add added).2.1] at found
      cases found
  | none =>
    dsimp only
    rw [Step.run_bind_eq_ok]
    constructor
    · rintro ⟨g', t, added, done⟩
      obtain ⟨added, rfl⟩ := run_orThrow_eq_ok.mp added
      cases done
      exact ⟨g', added, rfl⟩
    · rintro ⟨g', added, rfl⟩
      exact ⟨g', l, run_orThrow_eq_ok.mpr ⟨added, rfl⟩, rfl⟩

/-- Declaring elements succeeds exactly if all of them can be added. -/
theorem run_forM_declare_eq_ok {l' : Loading} : (es.forM declare).run.run l = (.ok (), l') ↔
    ∃ g', addAll l.graph es = (none, g') ∧ l' = { l with graph := g' } := by
  induction es generalizing l with
  | nil =>
    constructor
    · intro done
      cases done
      exact ⟨_, rfl, rfl⟩
    · rintro ⟨g', same, rfl⟩
      cases same
      rfl
  | cons e es ih =>
    change (declare e >>= fun _ => es.forM declare).run.run l = _ ↔ _
    rw [Step.run_bind_eq_ok, addAll]
    constructor
    · rintro ⟨⟨⟩, t, first, others⟩
      obtain ⟨g₁, added, rfl⟩ := run_declare_eq_ok.mp first
      obtain ⟨g', addedAll, rfl⟩ := ih.mp others
      exact ⟨g', by rw [added]; exact addedAll, rfl⟩
    · rintro ⟨g', addedAll, rfl⟩
      cases added : l.graph.add e with
      | error f =>
        rw [added] at addedAll
        cases addedAll
      | ok g₁ =>
        rw [added] at addedAll
        exact ⟨(), _, run_declare_eq_ok.mpr ⟨g₁, added, rfl⟩, ih.mpr ⟨g', addedAll, rfl⟩⟩

/-- A step reads elements in some way and adds them to the graph. -/
def ReadsAndAdds (step : Compile (List Element)) (read : Except Failure (List Element)) : Prop :=
  ∀ l es g', SucceedsWith step l es g' ↔ read = .ok es ∧ addAll l.graph es = (none, g')

/-- Loading a file adds what is read from it. -/
theorem readsAndAdds_loadFile [SetOrder] (d : Disk) (r : Repository) (p : Path) :
    ReadsAndAdds (loadFile d r p) (r.parse d p) := by
  intro l es g'
  unfold loadFile
  constructor
  · rintro ⟨messages, done⟩
    obtain ⟨read, t, parsing, declaredOn⟩ := Step.run_bind_eq_ok.mp done
    obtain ⟨parsed, rfl⟩ := run_orThrow_eq_ok.mp parsing
    obtain ⟨⟨⟩, u, declared, made⟩ := Step.run_bind_eq_ok.mp declaredOn
    obtain ⟨g₁, added, rfl⟩ := run_forM_declare_eq_ok.mp declared
    cases made
    exact ⟨parsed, added⟩
  · rintro ⟨parsed, added⟩
    refine ⟨l.messages, Step.run_bind_eq_ok.mpr
      ⟨es, l, run_orThrow_eq_ok.mpr ⟨parsed, rfl⟩, Step.run_bind_eq_ok.mpr
        ⟨(), _, run_forM_declare_eq_ok.mpr ⟨g', added, rfl⟩, rfl⟩⟩⟩

/-- Steps that load one after the other load what all of them read. -/
theorem succeedsWith_mapM_of_readsAndAdds {α : Type} {step : α → Compile (List Element)}
    {read : α → Except Failure (List Element)} (each : ∀ a, ReadsAndAdds (step a) (read a))
    {items : List α} {parts : List (List Element)} :
    SucceedsWith (items.mapM step) l parts g' ↔
      items.mapM read = .ok parts ∧ addAll l.graph parts.flatten = (none, g') := by
  induction items generalizing l parts with
  | nil =>
    constructor
    · rintro ⟨messages, done⟩
      obtain ⟨rfl, same⟩ := Step.run_mapM_nil_eq_ok.mp done
      rw [same]
      exact ⟨rfl, rfl⟩
    · rintro ⟨same, added⟩
      cases same
      cases added
      exact ⟨l.messages, Step.run_mapM_nil_eq_ok.mpr ⟨rfl, rfl⟩⟩
  | cons a items ih =>
    constructor
    · rintro ⟨messages, done⟩
      obtain ⟨es, t, rest, first, others, rfl⟩ := Step.run_mapM_cons_eq_ok.mp done
      obtain ⟨readFirst, added⟩ := (each a l es t.graph).mp ⟨t.messages, first⟩
      obtain ⟨readOthers, addedOthers⟩ := ih.mp ⟨messages, others⟩
      refine ⟨Result.mapM_eq_ok.mpr (.cons readFirst (Result.mapM_eq_ok.mp readOthers)), ?_⟩
      rw [List.flatten_cons, addAll_append added]
      exact addedOthers
    · rintro ⟨readAll, addedAll⟩
      obtain ⟨es, rest, readFirst, readOthers, rfl⟩ :=
        List.forall₂_cons_left_iff.mp (Result.mapM_eq_ok.mp readAll)
      rw [List.flatten_cons] at addedAll
      obtain ⟨g₁, added⟩ := addAll_prefix addedAll
      rw [addAll_append added] at addedAll
      obtain ⟨said, first⟩ := (each a l es g₁).mpr ⟨readFirst, added⟩
      have others : SucceedsWith (items.mapM step) ⟨g₁, said⟩ rest g' :=
        ih.mpr ⟨Result.mapM_eq_ok.mpr readOthers, addedAll⟩
      obtain ⟨messages, others⟩ := others
      exact ⟨messages, Step.run_mapM_cons_eq_ok.mpr ⟨es, _, rest, first, others, rfl⟩⟩

/-- Loading a repository adds what its files declare. -/
theorem readsAndAdds_loadRepository [SetOrder] (d : Disk) (phase : String) (r : Repository) :
    ReadsAndAdds (loadRepository d phase r) (r.declared d) := by
  intro l es g'
  unfold loadRepository Repository.declared
  constructor
  · rintro ⟨messages, done⟩
    obtain ⟨files, t, listing, saidOn⟩ := Step.run_bind_eq_ok.mp done
    obtain ⟨listed, rfl⟩ := run_orThrow_eq_ok.mp listing
    obtain ⟨⟨⟩, u, said, loadedOn⟩ := Step.run_bind_eq_ok.mp saidOn
    obtain ⟨parts, v, loaded, made⟩ := Step.run_bind_eq_ok.mp loadedOn
    cases said
    cases made
    obtain ⟨read, added⟩ :=
      (succeedsWith_mapM_of_readsAndAdds (readsAndAdds_loadFile d r)).mp ⟨messages, loaded⟩
    exact ⟨Result.bind_eq_ok.mpr ⟨files, listed, Result.bind_eq_ok.mpr ⟨parts, read, rfl⟩⟩, added⟩
  · rintro ⟨readAll, added⟩
    obtain ⟨files, listed, partsOn⟩ := Result.bind_eq_ok.mp readAll
    obtain ⟨parts, read, made⟩ := Result.bind_eq_ok.mp partsOn
    cases made
    have loads (said : List String) :
        SucceedsWith (files.mapM (loadFile d r)) ⟨l.graph, said⟩ parts g' :=
      (succeedsWith_mapM_of_readsAndAdds (readsAndAdds_loadFile d r)).mpr ⟨read, added⟩
    obtain ⟨messages, loaded⟩ := loads
      (l.messages ++ [s!"Loading {phase} repository '{r.name}' ({files.length} sources)"])
    exact ⟨messages, Step.run_bind_eq_ok.mpr ⟨files, l, run_orThrow_eq_ok.mpr ⟨listed, rfl⟩,
      Step.run_bind_eq_ok.mpr ⟨(), _, rfl, Step.run_bind_eq_ok.mpr ⟨parts, _, loaded, rfl⟩⟩⟩⟩

/-- A phase succeeds exactly when its repositories can be read, the paths they declare are distinct
and new, and the references of what they declare resolve. -/
theorem succeedsWith_compilePhase [SetOrder] {phase : String} {n : Nat} :
    SucceedsWith (compilePhase d phase rs) l n g' ↔ ∃ parts,
      rs.mapM (Repository.declared d) = .ok parts ∧ addAll l.graph parts.flatten = (none, g') ∧
        (∀ e ∈ parts.flatten, g'.resolve e = .ok ()) ∧ n = parts.flatten.length := by
  unfold compilePhase
  constructor
  · rintro ⟨messages, done⟩
    obtain ⟨parts, t, loaded, checkedOn⟩ := Step.run_bind_eq_ok.mp done
    obtain ⟨readAll, added⟩ :=
      (succeedsWith_mapM_of_readsAndAdds (readsAndAdds_loadRepository d phase)).mp
        ⟨t.messages, loaded⟩
    rw [Step.run_bind_of_ok (Step.run_get t)] at checkedOn
    obtain ⟨⟨⟩, u, checking, saidOn⟩ := Step.run_bind_eq_ok.mp checkedOn
    obtain ⟨checked, rfl⟩ := run_orThrow_eq_ok.mp checking
    obtain ⟨⟨⟩, v, said, counted⟩ := Step.run_bind_eq_ok.mp saidOn
    cases said
    cases counted
    exact ⟨parts, readAll, added, Result.forM_eq_ok.mp checked, rfl⟩
  · rintro ⟨parts, readAll, added, checked, rfl⟩
    have loaded : SucceedsWith (rs.mapM (loadRepository d phase)) l parts g' :=
      (succeedsWith_mapM_of_readsAndAdds (readsAndAdds_loadRepository d phase)).mpr ⟨readAll, added⟩
    obtain ⟨said, loaded⟩ := loaded
    refine ⟨said ++ [s!"Compiled {parts.flatten.length} {phase} elements"],
      Step.run_bind_eq_ok.mpr ⟨parts, _, loaded, ?_⟩⟩
    rw [Step.run_bind_of_ok (Step.run_get _)]
    exact Step.run_bind_eq_ok.mpr
      ⟨(), _, run_orThrow_eq_ok.mpr ⟨Result.forM_eq_ok.mpr checked, rfl⟩, rfl⟩

/-! ## Both phases -/

/-- Both phases, the first from a graph and the second from where that one ended, take it to another
one. -/
def Compiles [SetOrder] (d : Disk) (g g' : Graph) : Prop :=
  ∃ n g₁ messages m messages', runCompile (compileCore d) g = (.ok n, g₁, messages) ∧
    runCompile (compileSystem d) g₁ = (.ok m, g', messages')

/-- A step of compiling succeeds from a graph exactly if it does without messages said before. -/
theorem runCompile_eq_ok {α : Type} {step : Compile α} {a : α} :
    (∃ messages, runCompile step g = (.ok a, g', messages)) ↔ SucceedsWith step ⟨g, []⟩ a g' := by
  unfold runCompile SucceedsWith
  rcases step.run.run ⟨g, []⟩ with ⟨result, graph, said⟩
  constructor
  · rintro ⟨messages, same⟩
    cases same
    exact ⟨_, rfl⟩
  · rintro ⟨messages, same⟩
    cases same
    exact ⟨_, rfl⟩

/-- The members that are compiled in the second phase, given their order. -/
def others (order : List Repository) : List Repository := order.filter fun r => !r.isCore

/-- When the first phase succeeds. -/
theorem succeedsWith_compileCore [SetOrder] {n : Nat} :
    SucceedsWith (compileCore d) l n g' ↔ SucceedsWith
      (compilePhase d "core" (l.graph.repositories.members.filter Repository.isCore)) l n g' :=
  Iff.rfl

/-- When the second phase succeeds. -/
theorem succeedsWith_compileSystem [SetOrder] {n : Nat} : SucceedsWith (compileSystem d) l n g' ↔
    ∃ order, l.graph.repositories.dependencyOrder = .ok order ∧
      SucceedsWith (compilePhase d "system" (others order)) l n g' := by
  unfold compileSystem
  constructor
  · rintro ⟨messages, done⟩
    rw [Step.run_bind_of_ok (Step.run_get l)] at done
    obtain ⟨order, t, ordering, compiled⟩ := Step.run_bind_eq_ok.mp done
    obtain ⟨ordered, rfl⟩ := run_orThrow_eq_ok.mp ordering
    exact ⟨order, ordered, messages, compiled⟩
  · rintro ⟨order, ordered, messages, compiled⟩
    refine ⟨messages, ?_⟩
    rw [Step.run_bind_of_ok (Step.run_get l)]
    exact Step.run_bind_eq_ok.mpr ⟨order, l, run_orThrow_eq_ok.mpr ⟨ordered, rfl⟩, compiled⟩

/-- Both phases succeed exactly when the core repository compiles on its own, the others can be
ordered, and they compile on top of it. -/
theorem compiles_iff [SetOrder] : Compiles d g g' ↔ ∃ core g₁ order system,
    (g.repositories.members.filter Repository.isCore).mapM (Repository.declared d) = .ok core ∧
      addAll g core.flatten = (none, g₁) ∧ (∀ e ∈ core.flatten, g₁.resolve e = .ok ()) ∧
      g.repositories.dependencyOrder = .ok order ∧
      (others order).mapM (Repository.declared d) = .ok system ∧
      addAll g₁ system.flatten = (none, g') ∧ ∀ e ∈ system.flatten, g'.resolve e = .ok () := by
  constructor
  · rintro ⟨n, g₁, messages, m, messages', first, second⟩
    obtain ⟨core, readCore, addedCore, resolvedCore, rfl⟩ :=
      succeedsWith_compilePhase.mp (runCompile_eq_ok.mp ⟨messages, first⟩)
    obtain ⟨order, ordered, compiled⟩ :=
      succeedsWith_compileSystem.mp (runCompile_eq_ok.mp ⟨messages', second⟩)
    obtain ⟨system, readSystem, addedSystem, resolvedSystem, rfl⟩ :=
      succeedsWith_compilePhase.mp compiled
    have same := (grownBy_of_addAll addedCore).2.repositories
    refine ⟨core, g₁, order, system, readCore, addedCore, resolvedCore, ?_, readSystem, addedSystem,
      resolvedSystem⟩
    rw [← same]
    exact ordered
  · rintro ⟨core, g₁, order, system, readCore, addedCore, resolvedCore, ordered, readSystem,
      addedSystem, resolvedSystem⟩
    have same := (grownBy_of_addAll addedCore).2.repositories
    have first : SucceedsWith (compileCore d) ⟨g, []⟩ core.flatten.length g₁ :=
      succeedsWith_compileCore.mpr
        (succeedsWith_compilePhase.mpr ⟨core, readCore, addedCore, resolvedCore, rfl⟩)
    have second : SucceedsWith (compileSystem d) ⟨g₁, []⟩ system.flatten.length g' :=
      succeedsWith_compileSystem.mpr
        ⟨order, by rw [← ordered, ← same], succeedsWith_compilePhase.mpr
        ⟨system, readSystem, addedSystem, resolvedSystem, rfl⟩⟩
    obtain ⟨messages, first⟩ := runCompile_eq_ok.mpr first
    obtain ⟨messages', second⟩ := runCompile_eq_ok.mpr second
    exact ⟨_, g₁, messages, _, messages', first, second⟩

end Graph

end ModelForge
