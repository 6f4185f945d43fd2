import Mathlib.Data.List.Perm.Basic
import ModelForge.Proofs.Graph.Compile
import ModelForge.Proofs.Text.RepositoryNames

/-! # Well-formed source trees

The two phases of compiling accept exactly the well-formed source trees
(`ModelForge.Graph.exists_compiles_iff`): repositories without cycles, whose source files are all
valid, declare distinct paths, and refer only to declared elements of repositories they see. On
success the graph holds what is declared (`ModelForge.Graph.wellFormed_of_compiles`). The core
repository is compiled alone and sees only itself; where it depends on nothing, every repository
sees itself and its transitive dependencies (`ModelForge.Graph.compiles_iff_wellFormed`).
-/

namespace ModelForge

namespace RepositorySet

variable {d : Disk} {s : RepositorySet} {sees sees' : String → String → Prop} {e : Element}

/-- All elements that the readable source files of the members declare. -/
def declares [SetOrder] (d : Disk) (s : RepositorySet) : List Element :=
  s.members.flatMap (Repository.declares d)

/-- What a repository may refer to while it is compiled. The core repository is compiled before the
others are loaded. -/
def Sees (s : RepositorySet) (name other : String) : Prop :=
  s.Reaches name other ∧ (name = Repository.coreName → other = Repository.coreName)

/-- Repositories whose source files make up a model, given what each may refer to. -/
structure WellFormed [SetOrder] (sees : String → String → Prop) (d : Disk) (s : RepositorySet) :
    Prop where
  acyclic : s.Acyclic
  readable : ∀ r ∈ s.members, r.Readable d
  distinct : ((s.declares d).map Element.path).Nodup
  resolved : ∀ e ∈ s.declares d, Graph.Resolved sees (s.declares d) e

theorem mem_declares [SetOrder] :
    e ∈ s.declares d ↔ ∃ r ∈ s.members, e ∈ r.declares d := List.mem_flatMap

/-- A declared element is of a member. -/
theorem repository_mem_names [SetOrder] (member : e ∈ s.declares d) : e.repository ∈ s.names := by
  obtain ⟨r, inside, declared⟩ := mem_declares.mp member
  rw [(Repository.tagged_of_declares declared).1]
  exact name_mem_names inside

/-- What some of the members declare is what is declared in their repositories. -/
theorem mem_declares_filter [SetOrder] {p : Repository → Bool} {q : Prop}
    (named : ∀ r ∈ s.members, r.name = e.repository → (p r = true ↔ q)) :
    e ∈ (s.members.filter p).flatMap (Repository.declares d) ↔ e ∈ s.declares d ∧ q := by
  rw [List.mem_flatMap, mem_declares]
  constructor
  · rintro ⟨r, inside, declared⟩
    obtain ⟨member, chosen⟩ := List.mem_filter.mp inside
    have tag := (Repository.tagged_of_declares declared).1
    exact ⟨⟨r, member, declared⟩, (named r member tag.symm).mp chosen⟩
  · rintro ⟨⟨r, member, declared⟩, holds⟩
    have tag := (Repository.tagged_of_declares declared).1
    exact ⟨r, List.mem_filter.mpr ⟨member, (named r member tag.symm).mpr holds⟩, declared⟩

end RepositorySet

namespace Graph

open Cache (addAll)

variable {d : Disk} {g g' : Graph} {e : Element} {es es' : List Element}
  {sees sees' : String → String → Prop} {rs order : List Repository}

/-- References that resolve still do where their targets are and are seen. -/
theorem Resolved.imp (resolved : Resolved sees es e)
    (carried : ∀ target ∈ es, sees e.repository target.repository →
      target ∈ es' ∧ sees' e.repository target.repository) : Resolved sees' es' e := by
  constructor
  · intro path member
    obtain ⟨target, inside, same, isClass, seen⟩ := resolved.supertypes path member
    obtain ⟨inside', seen'⟩ := carried target inside seen
    exact ⟨target, inside', same, isClass, seen'⟩
  · intro p member
    refine (resolved.types p member).imp_right fun ⟨target, inside, same, seen⟩ => ?_
    obtain ⟨inside', seen'⟩ := carried target inside seen
    exact ⟨target, inside', same, seen'⟩

/-- Whether references resolve does not depend on the order of elements. -/
theorem resolved_congr (same : ∀ target, target ∈ es ↔ target ∈ es') :
    Resolved sees es e ↔ Resolved sees es' e :=
  ⟨fun resolved => resolved.imp fun target inside seen => ⟨(same target).mp inside, seen⟩,
    fun resolved => resolved.imp fun target inside seen => ⟨(same target).mpr inside, seen⟩⟩

variable [SetOrder]

/-- The declarations of repositories are read exactly when their source files are readable. -/
theorem flatten_of_declared {parts : List (List Element)}
    (read : rs.mapM (Repository.declared d) = .ok parts) :
    (∀ r ∈ rs, r.Readable d) ∧ parts.flatten = rs.flatMap (Repository.declares d) := by
  have pairs := Result.mapM_eq_ok.mp read
  clear read
  induction pairs with
  | nil => exact ⟨fun _ none => (nomatch none), rfl⟩
  | cons first _ ih =>
    obtain ⟨readable, rfl⟩ := Repository.declared_eq_ok.mp first
    refine ⟨List.forall_mem_cons.mpr ⟨readable, ih.1⟩, ?_⟩
    rw [List.flatten_cons, List.flatMap_cons, ih.2]

/-- Readable repositories give the elements they declare. -/
theorem exists_declared (readable : ∀ r ∈ rs, r.Readable d) :
    ∃ parts, rs.mapM (Repository.declared d) = .ok parts ∧
      parts.flatten = rs.flatMap (Repository.declares d) := by
  obtain ⟨parts, read⟩ := Result.mapM_of_each fun r member =>
    Repository.readable_iff.mp (readable r member)
  exact ⟨parts, read, (flatten_of_declared read).2⟩

/-- The elements of the core repository. -/
private def coreElements (d : Disk) (s : RepositorySet) : List Element :=
  (s.members.filter Repository.isCore).flatMap (Repository.declares d)

private theorem mem_coreElements {s : RepositorySet} : e ∈ coreElements d s ↔
    e ∈ s.declares d ∧ e.repository = Repository.coreName :=
  RepositorySet.mem_declares_filter fun r _ same => by rw [← same]; exact beq_iff_eq

/-- The elements of the other repositories, in the order they are compiled in. -/
private def otherElements (d : Disk) (order : List Repository) : List Element :=
  (others order).flatMap (Repository.declares d)

private theorem perm_otherElements {s : RepositorySet} (ordered : s.dependencyOrder = .ok order) :
    (otherElements d order).Perm
      ((s.members.filter fun r => !r.isCore).flatMap (Repository.declares d)) :=
  ((RepositorySet.perm_of_dependencyOrder ordered).filter _).flatMap_right _

private theorem mem_otherElements {s : RepositorySet} (ordered : s.dependencyOrder = .ok order) :
    e ∈ otherElements d order ↔ e ∈ s.declares d ∧ e.repository ≠ Repository.coreName := by
  rw [(perm_otherElements ordered).mem_iff]
  refine RepositorySet.mem_declares_filter fun r _ same => ?_
  rw [← same, Bool.not_eq_true']
  exact beq_eq_false_iff_ne

/-- Both phases together load what all members declare. -/
private theorem perm_declares {s : RepositorySet} (ordered : s.dependencyOrder = .ok order) :
    (otherElements d order ++ coreElements d s).Perm (s.declares d) := by
  refine ((perm_otherElements ordered).append_right _).trans (List.perm_append_comm.trans ?_)
  unfold coreElements
  rw [← List.flatMap_append]
  exact (List.filter_append_perm Repository.isCore s.members).flatMap_right _

/-- The elements of the core repository resolve among themselves exactly when they resolve among all
declared elements as far as the core repository sees. -/
private theorem resolved_core_iff {s : RepositorySet} (of_core : e ∈ coreElements d s) :
    Resolved s.Reaches (coreElements d s) e ↔ Resolved s.Sees (s.declares d) e := by
  have named := (mem_coreElements.mp of_core).2
  constructor
  · intro resolved
    refine resolved.imp fun target inside seen => ?_
    obtain ⟨declared, core⟩ := mem_coreElements.mp inside
    exact ⟨declared, seen, fun _ => core⟩
  · intro resolved
    refine resolved.imp fun target declared seen => ?_
    exact ⟨mem_coreElements.mpr ⟨declared, seen.2 named⟩, seen.1⟩

private theorem resolved_other_iff {s : RepositorySet}
    (named : e.repository ≠ Repository.coreName) :
    Resolved s.Reaches (s.declares d) e ↔ Resolved s.Sees (s.declares d) e :=
  ⟨fun resolved => resolved.imp fun _ inside seen =>
      ⟨inside, seen, fun core => absurd core named⟩,
    fun resolved => resolved.imp fun _ inside seen => ⟨inside, seen.1⟩⟩

/-- A graph that was compiled holds what is declared, and the source tree is well-formed. -/
theorem wellFormed_of_compiles (empty : g.elements = []) (compiled : Compiles d g g') :
    g.repositories.WellFormed g.repositories.Sees d ∧ GrownBy g (g.repositories.declares d) g' := by
  obtain ⟨core, g₁, order, system, readCore, addedCore, resolvedCore, ordered, readSystem,
    addedSystem, resolvedSystem⟩ := compiles_iff.mp compiled
  obtain ⟨readableCore, sameCore⟩ := flatten_of_declared readCore
  obtain ⟨readableSystem, sameSystem⟩ := flatten_of_declared readSystem
  obtain ⟨-, growsCore⟩ := grownBy_of_addAll addedCore
  obtain ⟨distinct, growsSystem⟩ := grownBy_of_addAll addedSystem
  have atCore : g₁.elements.Perm (coreElements d g.repositories) := by
    have grown := growsCore.elements
    rwa [sameCore, empty, List.append_nil] at grown
  have atEnd : (system.flatten ++ g₁.elements).Perm (g.repositories.declares d) := by
    rw [sameSystem]
    exact (atCore.append_left _).trans (perm_declares ordered)
  have all : g'.elements.Perm (g.repositories.declares d) := growsSystem.elements.trans atEnd
  have whole := growsCore.trans growsSystem
  refine ⟨⟨RepositorySet.exists_dependencyOrder_iff.mp ⟨order, ordered⟩, fun r member => ?_,
    (atEnd.map Element.path).nodup_iff.mp distinct, fun e declared => ?_⟩,
    whole.repositories, whole.state, whole.history, by rwa [empty, List.append_nil]⟩
  · by_cases isCore : r.isCore = true
    · exact readableCore r (List.mem_filter.mpr ⟨member, isCore⟩)
    · refine readableSystem r (List.mem_filter.mpr
        ⟨(RepositorySet.perm_of_dependencyOrder ordered).mem_iff.mpr member, ?_⟩)
      simpa using isCore
  · have known := RepositorySet.repository_mem_names declared
    by_cases named : e.repository = Repository.coreName
    · have of_core : e ∈ coreElements d g.repositories := mem_coreElements.mpr ⟨declared, named⟩
      have resolved := resolvedCore e (by rw [sameCore]; exact of_core)
      rw [resolve_eq_ok (by rwa [growsCore.repositories]), growsCore.repositories,
        resolved_congr fun target => atCore.mem_iff] at resolved
      exact (resolved_core_iff of_core).mp resolved
    · have of_other : e ∈ otherElements d order := (mem_otherElements ordered).mpr ⟨declared, named⟩
      have resolved := resolvedSystem e (by rw [sameSystem]; exact of_other)
      rw [resolve_eq_ok (by rwa [whole.repositories]), whole.repositories,
        resolved_congr fun target => all.mem_iff] at resolved
      exact (resolved_other_iff named).mp resolved

/-- A well-formed source tree compiles. -/
theorem compiles_of_wellFormed (empty : g.elements = []) (loading : g.state.isLoading = true)
    (wellFormed : g.repositories.WellFormed g.repositories.Sees d) : ∃ g', Compiles d g g' := by
  obtain ⟨order, ordered⟩ := RepositorySet.exists_dependencyOrder_iff.mpr wellFormed.acyclic
  obtain ⟨core, readCore, sameCore⟩ := exists_declared fun r
    (inside : r ∈ g.repositories.members.filter Repository.isCore) =>
    wellFormed.readable r (List.mem_of_mem_filter inside)
  obtain ⟨system, readSystem, sameSystem⟩ := exists_declared fun r (inside : r ∈ others order) =>
    wellFormed.readable r ((RepositorySet.perm_of_dependencyOrder ordered).mem_iff.mp
      (List.mem_of_mem_filter inside))
  have perm : (system.flatten ++ core.flatten).Perm (g.repositories.declares d) := by
    rw [sameSystem, sameCore]
    exact perm_declares ordered
  have distinct : ((system.flatten ++ core.flatten).map Element.path).Nodup :=
    (perm.map Element.path).nodup_iff.mpr wellFormed.distinct
  have distinctCore : ((core.flatten ++ g.elements).map Element.path).Nodup := by
    rw [empty, List.append_nil]
    rw [List.map_append] at distinct
    exact (List.nodup_append.mp distinct).2.1
  obtain ⟨g₁, addedCore, growsCore⟩ := addAll_of_distinct loading distinctCore
  have atCore : g₁.elements.Perm core.flatten := by
    have grown := growsCore.elements
    rwa [empty, List.append_nil] at grown
  have moved : (system.flatten ++ g₁.elements).Perm (system.flatten ++ core.flatten) :=
    atCore.append_left _
  obtain ⟨g', addedSystem, growsSystem⟩ := addAll_of_distinct (by rwa [growsCore.state])
    ((moved.map Element.path).nodup_iff.mpr distinct)
  have all : g'.elements.Perm (g.repositories.declares d) :=
    growsSystem.elements.trans (moved.trans perm)
  have repositories := (growsCore.trans growsSystem).repositories
  refine ⟨g', compiles_iff.mpr ⟨core, g₁, order, system, readCore, addedCore, fun e inside => ?_,
    ordered, readSystem, addedSystem, fun e inside => ?_⟩⟩
  · have of_core : e ∈ coreElements d g.repositories := by rwa [sameCore] at inside
    have declared := (mem_coreElements.mp of_core).1
    rw [resolve_eq_ok (by rw [growsCore.repositories]; exact
      RepositorySet.repository_mem_names declared), growsCore.repositories,
      resolved_congr fun target => atCore.mem_iff, sameCore]
    exact (resolved_core_iff of_core).mpr (wellFormed.resolved e declared)
  · have of_other : e ∈ otherElements d order := by rwa [sameSystem] at inside
    obtain ⟨declared, named⟩ := (mem_otherElements ordered).mp of_other
    rw [resolve_eq_ok (by rw [repositories]; exact RepositorySet.repository_mem_names declared),
      repositories, resolved_congr fun target => all.mem_iff]
    exact (resolved_other_iff named).mpr (wellFormed.resolved e declared)

/-- Both phases succeed exactly on the well-formed source trees. -/
theorem exists_compiles_iff (empty : g.elements = []) (loading : g.state.isLoading = true) :
    (∃ g', Compiles d g g') ↔ g.repositories.WellFormed g.repositories.Sees d :=
  ⟨fun ⟨_, compiled⟩ => (wellFormed_of_compiles empty compiled).1,
    compiles_of_wellFormed empty loading⟩

end Graph

/-- What a set declares, where it has been computed. -/
theorem RepositorySet.declares_of_toOption [SetOrder] {s : RepositorySet} {d : Disk}
    (es : List Element)
    (computed : (s.members.mapM (Repository.declared d)).toOption.map List.flatten = some es) :
    (∀ r ∈ s.members, r.Readable d) ∧ s.declares d = es := by
  obtain ⟨parts, read, same⟩ := Option.map_eq_some_iff.mp computed
  obtain ⟨readable, all⟩ := Graph.flatten_of_declared (Result.toOption_eq_some.mp read)
  exact ⟨readable, all.symm.trans same⟩

/-! ## A small source tree

The class of one repository extends the class of the core repository. -/

namespace Sample

attribute [local instance] SetOrder.asWritten

/-- The files of both repositories. -/
def disk : Disk :=
  ⟨[], [(["p"], .directory), (["q"], .directory),
    (["p", "a.pure.yaml"], .file (Utf8.encode
      "\x7b\"package\":\"p\",\"elements\":[\x7b\"kind\":\"class\",\"name\":\"A\"\x7d]\x7d")),
    (["q", "b.pure.yaml"], .file (Utf8.encode
      ("\x7b\"package\":\"q\",\"elements\":" ++
        "[\x7b\"kind\":\"class\",\"name\":\"B\",\"extends\":[\"p::A\"]\x7d]\x7d")))]⟩

/-- Both repositories, one of which depends on the core repository. -/
def repositories : RepositorySet where
  members :=
    [⟨"platform", [], .ofParts ["p"], legal_platform⟩,
      ⟨"q", ["platform"], .ofParts ["q"], legal_q⟩]
  ascending := by decide
  closed := by decide

/-- The declared elements. -/
def elements : List Element :=
  [⟨"p::A", "platform", "/platform/a.pure.yaml", [], .classBody [] []⟩,
    ⟨"q::B", "q", "/q/b.pure.yaml", [], .classBody ["p::A"] []⟩]

/-- The sample's repositories can be read and declare its elements. -/
theorem declares_repositories :
    (∀ r ∈ repositories.members, r.Readable disk) ∧ repositories.declares disk = elements :=
  RepositorySet.declares_of_toOption _ (by decide +kernel)

theorem sees_platform : repositories.Sees "q" "platform" := by
  refine ⟨.single ⟨⟨"q", ["platform"], .ofParts ["q"], legal_q⟩, ?_, rfl, ?_⟩, fun core => ?_⟩
  · exact List.mem_cons_of_mem _ List.mem_cons_self
  · exact List.mem_cons_self
  · exact absurd core (by decide)

/-- The sample's repositories are well-formed on its disk. -/
theorem wellFormed_repositories : repositories.WellFormed repositories.Sees disk := by
  obtain ⟨readable, declares⟩ := declares_repositories
  have ordered : repositories.dependencyOrder.toOption.isSome = true := by decide +kernel
  refine ⟨RepositorySet.exists_dependencyOrder_iff.mp (Result.exists_of_isSome ordered), readable,
    ?_, ?_⟩
  · rw [declares]
    decide
  · rw [declares]
    intro e member
    simp only [elements, List.mem_cons, List.not_mem_nil, or_false] at member
    rcases member with rfl | rfl
    · exact ⟨fun _ none => (nomatch none), fun _ none => (nomatch none)⟩
    · refine ⟨fun path inside => ?_, fun _ none => (nomatch none)⟩
      cases List.mem_singleton.mp inside
      exact ⟨_, List.mem_cons_self, rfl, rfl, sees_platform⟩

end Sample

namespace Graph

variable {d : Disk} {g : Graph}

/-! ## A core repository that depends on nothing -/

/-- The core repository, if it is there, declares no dependencies. -/
def Standalone (s : RepositorySet) : Prop :=
  ∀ r ∈ s.members, r.name = Repository.coreName → r.dependencies = []

/-- A core repository that depends on nothing reaches only itself. -/
theorem sees_iff_of_standalone {s : RepositorySet} (standalone : Standalone s)
    {name other : String} : s.Sees name other ↔ s.Reaches name other := by
  refine ⟨fun seen => seen.1, fun path => ⟨path, ?_⟩⟩
  rintro rfl
  rcases Relation.ReflTransGen.cases_head path with same | ⟨next, step, -⟩
  · exact same.symm
  · obtain ⟨r, member, named, dependency⟩ := step
    rw [standalone r member named] at dependency
    cases dependency

/-- Where the core repository depends on nothing, an empty graph that is being rebuilt compiles
exactly when the source tree is well-formed, each repository seeing itself and its transitive
dependencies. It then holds the declared elements, each once and tagged with the repository and the
source file that declare it. -/
theorem compiles_iff_wellFormed [SetOrder] (empty : g.elements = [])
    (rebuilding : g.state = .rebuilding) (standalone : Standalone g.repositories) :
    ((∃ g', Compiles d g g') ↔ g.repositories.WellFormed g.repositories.Reaches d) ∧
      ∀ g', Compiles d g g' → g'.elements.Perm (g.repositories.declares d) ∧
        ∀ e ∈ g'.elements, ∃ r ∈ g.repositories.members, e ∈ r.declares d ∧
          Repository.Tagged d r e := by
  have sees : g.repositories.Sees = g.repositories.Reaches := by
    funext name other
    exact propext (sees_iff_of_standalone standalone)
  constructor
  · rw [← sees]
    exact exists_compiles_iff empty (by rw [rebuilding]; rfl)
  · intro g' compiled
    have all : g'.elements.Perm (g.repositories.declares d) := by
      have grown := (wellFormed_of_compiles empty compiled).2.elements
      rwa [empty, List.append_nil] at grown
    refine ⟨all, fun e inside => ?_⟩
    obtain ⟨r, member, declared⟩ := RepositorySet.mem_declares.mp (all.mem_iff.mp inside)
    exact ⟨r, member, declared, Repository.tagged_of_declares declared⟩

attribute [local instance] SetOrder.asWritten

theorem compiles_sample : ∃ g',
    Compiles Sample.disk { Graph.new Sample.repositories with state := .rebuilding } g' ∧
      g'.elements.Perm Sample.elements ∧
      Sample.repositories.WellFormed Sample.repositories.Reaches Sample.disk := by
  have standalone : Standalone Sample.repositories := by
    intro r member named
    simp only [Sample.repositories, List.mem_cons, List.not_mem_nil, or_false] at member
    rcases member with rfl | rfl
    · rfl
    · exact absurd named (by decide)
  obtain ⟨accepts, holds⟩ := compiles_iff_wellFormed (d := Sample.disk)
    (g := { Graph.new Sample.repositories with state := .rebuilding }) rfl rfl standalone
  obtain ⟨g', compiled⟩ := compiles_of_wellFormed (d := Sample.disk)
    (g := { Graph.new Sample.repositories with state := .rebuilding }) rfl rfl
    Sample.wellFormed_repositories
  refine ⟨g', compiled, ?_, accepts.mp ⟨g', compiled⟩⟩
  rw [← Sample.declares_repositories.2]
  exact (holds g' compiled).1

end Graph

end ModelForge
