import ModelForge.Failure
import ModelForge.Text.Identifier
import ModelForge.Text.Keyed
import ModelForge.Text.Names

/-!
# Sets of repositories

A repository has a legal name, the names of the repositories it depends on, and a directory. In a
set of repositories names are distinct and every dependency is a member. `subset` takes the named
members with everything they depend on, and `dependencyOrder` lists each member after its
dependencies.
-/

namespace ModelForge

/-- A repository resolved to a directory. -/
structure Repository where
  name : String
  /-- Names of the repositories it depends on, ascending. -/
  dependencies : List String
  root : Path
  legal : isRepositoryName name = true
  deriving DecidableEq, Repr

/-- The name of the repository that is compiled before all others. -/
def Repository.coreName : String := "platform"

/-- Whether a repository is compiled before all others. -/
def Repository.isCore (r : Repository) : Bool := r.name == coreName

/-- A set of repositories: ascending by name and closed under dependencies. -/
structure RepositorySet where
  members : List Repository
  ascending : Keyed.Ascending Repository.name members
  closed : ∀ r ∈ members, ∀ d ∈ r.dependencies, d ∈ members.map Repository.name

namespace RepositorySet

/-- The names of the members, ascending. -/
def names (s : RepositorySet) : List String := s.members.map Repository.name

/-- The member with a name. -/
def get? (s : RepositorySet) (name : String) : Option Repository :=
  Keyed.find? Repository.name name s.members

/-- Whether a member has a name. -/
def contains (s : RepositorySet) (name : String) : Bool := s.names.contains name

/-- The number of members. -/
def size (s : RepositorySet) : Nat := s.members.length

/-- The set without members. -/
def empty : RepositorySet := ⟨[], List.Pairwise.nil, fun _ h => absurd h List.not_mem_nil⟩

/-- Adds repositories to an ascending list; the first one whose name is taken is refused. -/
def collect (ms : { ms : List Repository // Keyed.Ascending Repository.name ms }) :
    List Repository →
      Except DefinitionFault { ms : List Repository // Keyed.Ascending Repository.name ms }
  | [] => .ok ms
  | r :: rest =>
    match found : Keyed.find? Repository.name r.name ms.1 with
    | some first => .error (.duplicate r.name first.root r.root)
    | none => collect ⟨Keyed.insert Repository.name r ms.1, Keyed.ascending_insert ms.2 found⟩ rest

/-- The repositories collected are those given. -/
theorem mem_collect {ms out} {rs : List Repository} (h : collect ms rs = .ok out) (r : Repository) :
    r ∈ out.1 ↔ r ∈ ms.1 ∨ r ∈ rs := by
  induction rs generalizing ms with
  | nil =>
    cases h
    simp
  | cons first rest ih =>
    unfold collect at h
    split at h
    · cases h
    · rw [ih h]
      simp only [Keyed.mem_insert, List.mem_cons]
      grind

/-- The dependencies of a repository that are not among some names. -/
def unmet (names : List String) (r : Repository) : Option DefinitionFault :=
  match Names.ofList (r.dependencies.filter fun d => !names.contains d) with
  | [] => none
  | missing => some (.unknownDependencies r.name missing)

/-- Without an unmet dependency every dependency is among the names. -/
theorem mem_of_unmet_eq_none {names : List String} {r : Repository} (h : unmet names r = none)
    {d : String} (hd : d ∈ r.dependencies) : d ∈ names := by
  unfold unmet at h
  split at h
  · next none =>
    refine Classical.byContradiction fun absent => ?_
    have : d ∈ Names.ofList (r.dependencies.filter fun d => !names.contains d) := by
      simp [hd, absent]
    rw [none] at this
    exact absurd this List.not_mem_nil
  · cases h

/-- The set of the given repositories. Names have to be distinct, and then every dependency has to
be given; of several faults the first in the order given counts. -/
def ofList? (rs : List Repository) : Except DefinitionFault RepositorySet :=
  match collected : collect ⟨[], List.Pairwise.nil⟩ rs with
  | .error f => .error f
  | .ok ms =>
    match met : rs.findSome? (unmet (ms.1.map Repository.name)) with
    | some f => .error f
    | none =>
      .ok ⟨ms.1, ms.2, fun r hr _ hd =>
        mem_of_unmet_eq_none (List.findSome?_eq_none_iff.1 met r
          (by simpa using (mem_collect collected r).1 hr)) hd⟩

/-- What the members of a name depend on. -/
def dependenciesOf (s : RepositorySet) (name : String) : List String :=
  s.members.flatMap fun r => if r.name = name then r.dependencies else []

/-- The dependencies of a member are found under its name. -/
theorem mem_dependenciesOf {s : RepositorySet} {r : Repository} (hr : r ∈ s.members) {d : String}
    (hd : d ∈ r.dependencies) : d ∈ s.dependenciesOf r.name :=
  List.mem_flatMap.2 ⟨r, hr, by simpa using hd⟩

/-- The members whose names have not been visited. -/
def unvisited (s : RepositorySet) (visited : List String) : List Repository :=
  s.members.filter fun r => !visited.contains r.name

theorem unvisited_cons (s : RepositorySet) (visited : List String) (name : String) :
    s.unvisited (name :: visited) = (s.unvisited visited).filter fun r => r.name != name := by
  simp only [unvisited, List.filter_filter]
  refine List.filter_congr fun r _ => ?_
  by_cases same : r.name = name <;> simp [same]

/-- A visit leaves no more members to visit. -/
theorem length_unvisited_cons_le (s : RepositorySet) (visited : List String) (name : String) :
    (s.unvisited (name :: visited)).length ≤ (s.unvisited visited).length := by
  rw [unvisited_cons]
  exact List.length_filter_le _ _

/-- Visiting a new member leaves fewer members to visit. -/
theorem length_unvisited_cons_lt {s : RepositorySet} {visited : List String} {name : String}
    (new : name ∉ visited) (known : name ∈ s.names) :
    (s.unvisited (name :: visited)).length < (s.unvisited visited).length := by
  obtain ⟨r, hr, rfl⟩ := List.mem_map.1 known
  rw [unvisited_cons]
  refine List.length_filter_lt_length_iff_exists.2 ⟨r, ?_, by simp⟩
  simp [unvisited, hr, new]

theorem dependenciesOf_eq_nil {s : RepositorySet} {name : String} (unknown : name ∉ s.names) :
    s.dependenciesOf name = [] := by
  refine List.flatMap_eq_nil_iff.2 fun r hr => ?_
  have : r.name ≠ name := fun same => unknown (List.mem_map.2 ⟨r, hr, same⟩)
  simp [this]

/-- Everything that can be reached from pending names by dependencies, and what was visited. -/
def reach (s : RepositorySet) (visited : List String) : List String → List String
  | [] => visited
  | name :: rest =>
    if name ∈ visited then s.reach visited rest
    else s.reach (name :: visited) (s.dependenciesOf name ++ rest)
termination_by pending => ((s.unvisited visited).length, pending.length)
decreasing_by
  · exact Prod.Lex.right _ (by simp)
  · by_cases known : name ∈ s.names
    · exact Prod.Lex.left _ _ (length_unvisited_cons_lt ‹_› known)
    · rcases Nat.lt_or_eq_of_le (s.length_unvisited_cons_le visited name) with less | same
      · exact Prod.Lex.left _ _ less
      · rw [same, dependenciesOf_eq_nil known]
        exact Prod.Lex.right _ (by simp)

/-- What is reached holds the visited and the pending names. -/
theorem subset_reach (s : RepositorySet) (visited pending : List String) {name : String}
    (h : name ∈ visited ∨ name ∈ pending) : name ∈ s.reach visited pending := by
  fun_induction reach s visited pending with
  | case1 => simpa using h
  | case2 visited first rest seen ih =>
    refine ih ?_
    rcases h with h | h
    · exact .inl h
    · rcases List.mem_cons.1 h with rfl | h
      · exact .inl seen
      · exact .inr h
  | case3 visited first rest _ ih =>
    refine ih ?_
    rcases h with h | h
    · exact .inl (List.mem_cons_of_mem _ h)
    · rcases List.mem_cons.1 h with rfl | h
      · exact .inl List.mem_cons_self
      · exact .inr (List.mem_append_right _ h)

/-- What is reached is closed under dependencies. -/
theorem reach_closed (s : RepositorySet) (visited pending : List String)
    (inv : ∀ n ∈ visited, ∀ d ∈ s.dependenciesOf n, d ∈ visited ∨ d ∈ pending) :
    ∀ n ∈ s.reach visited pending, ∀ d ∈ s.dependenciesOf n, d ∈ s.reach visited pending := by
  fun_induction reach s visited pending with
  | case1 visited =>
    intro n hn d hd
    simpa using inv n hn d hd
  | case2 visited first rest seen ih =>
    refine ih fun n hn d hd => ?_
    rcases inv n hn d hd with h | h
    · exact .inl h
    · rcases List.mem_cons.1 h with rfl | h
      · exact .inl seen
      · exact .inr h
  | case3 visited first rest _ ih =>
    refine ih fun n hn d hd => ?_
    rcases List.mem_cons.1 hn with rfl | hn
    · exact .inr (List.mem_append_left _ hd)
    · rcases inv n hn d hd with h | h
      · exact .inl (List.mem_cons_of_mem _ h)
      · rcases List.mem_cons.1 h with rfl | h
        · exact .inl List.mem_cons_self
        · exact .inr (List.mem_append_right _ h)

/-- The given names with everything they depend on. -/
def closure (s : RepositorySet) (given : List String) : List String := s.reach [] given

/-- The closure of names holds the dependencies of each of them. -/
theorem closure_closed (s : RepositorySet) (given : List String) {n d : String}
    (hn : n ∈ s.closure given) (hd : d ∈ s.dependenciesOf n) : d ∈ s.closure given :=
  s.reach_closed [] given (fun _ h => absurd h List.not_mem_nil) n hn d hd

/-- The members with the given names and everything they depend on. -/
def restrict (s : RepositorySet) (given : List String) : RepositorySet where
  members := s.members.filter fun r => (s.closure given).contains r.name
  ascending := s.ascending.filter _
  closed := by
    intro r hr d hd
    obtain ⟨member, inside⟩ := List.mem_filter.1 hr
    have reached : d ∈ s.closure given :=
      s.closure_closed given (by simpa using inside) (mem_dependenciesOf member hd)
    obtain ⟨q, hq, rfl⟩ := List.mem_map.1 (s.closed r member d hd)
    exact List.mem_map.2 ⟨q, List.mem_filter.2 ⟨hq, by simpa using reached⟩, rfl⟩

/-- The members with the given names and everything they depend on; every name must be known. Of
several unknown names the last is reported. -/
def subset (s : RepositorySet) (given : List String) : Except Failure RepositorySet :=
  match given.reverse.find? fun n => !s.contains n with
  | some name => .error (.unknownName name)
  | none => .ok (s.restrict given)

/-- The names that a repository may refer to: its own and those it depends on, directly or not. -/
def visibleFrom (s : RepositorySet) (name : String) : Except Failure (List String) :=
  (s.subset [name]).map names

/-- The repositories none of whose dependencies is still waiting. -/
def ready (waiting : List Repository) : List Repository :=
  waiting.filter fun r =>
    r.dependencies.all fun d => !(waiting.map Repository.name).contains d

/-- The repositories that have to wait for another one. -/
def blocked (waiting : List Repository) : List Repository :=
  waiting.filter fun r =>
    !(r.dependencies.all fun d => !(waiting.map Repository.name).contains d)

/-- If something is ready, fewer repositories are left waiting. -/
theorem length_blocked_lt {waiting : List Repository} (some_ready : ready waiting ≠ []) :
    (blocked waiting).length < waiting.length := by
  obtain ⟨r, hr⟩ := List.exists_mem_of_ne_nil _ some_ready
  obtain ⟨member, free⟩ := List.mem_filter.1 hr
  exact List.length_filter_lt_length_iff_exists.2
    ⟨r, member, by rw [free]; exact Bool.false_ne_true⟩

/-- Takes off the ready repositories, layer after layer. -/
def layered (waiting : List Repository) : Except DefinitionFault (List Repository) :=
  if waiting = [] then .ok []
  else if ready waiting = [] then .error (.circular (waiting.map Repository.name))
  else do return ready waiting ++ (← layered (blocked waiting))
termination_by waiting.length
decreasing_by exact length_blocked_lt ‹_›

/-- The members, each after all it depends on; repositories that could stand together are listed by
name. -/
def dependencyOrder (s : RepositorySet) : Except Failure (List Repository) :=
  match layered s.members with
  | .ok order => .ok order
  | .error f => .error (.definition f none)

end RepositorySet

end ModelForge
