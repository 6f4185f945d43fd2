import Mathlib.Order.Bounds.Basic
import ModelForge.Proofs.Repository.Dependencies
import ModelForge.Proofs.Text.Keyed

/-! # Layers of dependencies

The repositories of a set are ordered layer by layer: a layer holds those whose longest chain of
dependencies has as many steps as there are layers before it
(`ModelForge.RepositorySet.WaitingAfter.mem_ready`). If a round finds nothing ready, the
repositories that still wait are exactly those from which a cycle can be reached
(`ModelForge.RepositorySet.WaitingAfter.mem_iff_reachesCycle`). So every set either is acyclic and
gets its order, or has a cycle and the failure names the repositories that lead into one
(`ModelForge.RepositorySet.dependencyOrder_total`).
-/

namespace ModelForge

namespace RepositorySet

variable {s : RepositorySet} {r : Repository} {name other : String} {k n : Nat}
  {waiting order : List Repository}

/-! ## Chains -/

/-- A chain of dependencies with a number of steps starts at a name. -/
def HasChain (s : RepositorySet) : Nat → String → Prop
  | 0, _ => True
  | n + 1, name => ∃ other, s.DependsOn name other ∧ s.HasChain n other

/-- The longest chain of dependencies that starts at a name has a number of steps. -/
def IsDepth (s : RepositorySet) (name : String) (n : Nat) : Prop :=
  IsGreatest { n | s.HasChain n name } n

/-- A chain can be cut at its end. -/
theorem HasChain.shorter (chain : s.HasChain (n + 1) name) : s.HasChain n name := by
  induction n generalizing name with
  | zero => trivial
  | succ n ih =>
    obtain ⟨other, step, rest⟩ := chain
    exact ⟨other, step, ih rest⟩

/-- A name with a chain has chains of every smaller length. -/
theorem HasChain.of_le {m : Nat} (chain : s.HasChain n name) (le : m ≤ n) : s.HasChain m name := by
  induction le with
  | refl => exact chain
  | step _ ih => exact ih chain.shorter

/-- The depth is the length of a chain that no longer one exceeds. -/
theorem isDepth_iff : s.IsDepth name n ↔ s.HasChain n name ∧ ¬ s.HasChain (n + 1) name := by
  constructor
  · rintro ⟨chain, greatest⟩
    exact ⟨chain, fun longer => absurd (greatest longer) (Nat.not_succ_le_self n)⟩
  · rintro ⟨chain, ends⟩
    refine ⟨chain, fun m longer => Nat.le_of_not_lt fun more => ?_⟩
    exact ends (HasChain.of_le longer more)

/-- What a name depends on, directly or not, starts a shorter chain. -/
theorem HasChain.of_transGen (path : Relation.TransGen s.DependsOn name other)
    (chain : s.HasChain n other) : s.HasChain (n + 1) name := by
  induction path using Relation.TransGen.head_induction_on with
  | single step => exact ⟨_, step, chain⟩
  | head step _ ih => exact ⟨_, step, ih.shorter⟩

/-- A name starts a longer chain than what it depends on, directly or not. -/
theorem IsDepth.lt_of_transGen {m : Nat} (path : Relation.TransGen s.DependsOn name other)
    (deep : s.IsDepth name m) (below : s.IsDepth other n) : n < m :=
  deep.2 (HasChain.of_transGen path below.1)

/-- Where a cycle can be reached, chains of any length start. -/
theorem ReachesCycle.hasChain (cyclic : s.ReachesCycle name) (n : Nat) : s.HasChain n name := by
  obtain ⟨other, path, cycle⟩ := cyclic
  have around : s.HasChain n other := by
    induction n with
    | zero => trivial
    | succ n ih => exact HasChain.of_transGen cycle ih
  rcases Relation.reflTransGen_iff_eq_or_transGen.mp path with rfl | path
  · exact around
  · exact (HasChain.of_transGen path around).shorter

/-! ## Rounds -/

/-- The repositories that wait after some rounds are those that start a chain of as many steps. -/
structure WaitingAfter (s : RepositorySet) (k : Nat) (waiting : List Repository) : Prop where
  sublist : waiting.Sublist s.members
  mem_iff : ∀ r ∈ s.members, r ∈ waiting ↔ s.HasChain k r.name

/-- At first all members wait. -/
theorem waitingAfter_members (s : RepositorySet) : s.WaitingAfter 0 s.members :=
  ⟨.refl _, fun _ member => iff_of_true member trivial⟩

namespace WaitingAfter

/-- A member starts a chain of one more step if something it depends on waits. -/
theorem hasChain_succ (waits : s.WaitingAfter k waiting) (member : r ∈ s.members) :
    s.HasChain (k + 1) r.name ↔ ∃ d ∈ r.dependencies, d ∈ waiting.map Repository.name := by
  constructor
  · rintro ⟨d, ⟨same, sameMember, sameName, dependency⟩, rest⟩
    cases eq_of_name_eq sameMember member sameName
    obtain ⟨target, targetMember, rfl⟩ := mem_names.mp (s.closed r member d dependency)
    exact ⟨_, dependency, List.mem_map_of_mem ((waits.mem_iff target targetMember).mpr rest)⟩
  · rintro ⟨d, dependency, inside⟩
    obtain ⟨target, waiting, rfl⟩ := List.mem_map.mp inside
    exact ⟨_, ⟨r, member, rfl, dependency⟩,
      (waits.mem_iff target (waits.sublist.subset waiting)).mp waiting⟩

/-- A round takes off the members whose longest chain has as many steps as rounds have passed. -/
theorem mem_ready (waits : s.WaitingAfter k waiting) :
    r ∈ ready waiting ↔ r ∈ s.members ∧ s.IsDepth r.name k := by
  rw [mem_ready_iff, isDepth_iff]
  constructor
  · rintro ⟨inside, free⟩
    have member := waits.sublist.subset inside
    refine ⟨member, (waits.mem_iff r member).mp inside, fun longer => ?_⟩
    obtain ⟨d, dependency, blocks⟩ := (waits.hasChain_succ member).mp longer
    exact free d dependency blocks
  · rintro ⟨member, chain, ends⟩
    refine ⟨(waits.mem_iff r member).mpr chain, fun d dependency blocks => ends ?_⟩
    exact (waits.hasChain_succ member).mpr ⟨d, dependency, blocks⟩

/-- A round leaves those that start a chain of one more step. -/
theorem blocked (waits : s.WaitingAfter k waiting) :
    s.WaitingAfter (k + 1) (RepositorySet.blocked waiting) := by
  refine ⟨List.filter_sublist.trans waits.sublist, fun r member => ?_⟩
  rw [mem_blocked_iff, waits.hasChain_succ member]
  refine and_iff_right_of_imp fun blocks => (waits.mem_iff r member).mpr ?_
  exact ((waits.hasChain_succ member).mpr blocks).shorter

/-- Where a round finds nothing ready, those that wait are the members from which a cycle can be
reached. -/
theorem mem_iff_reachesCycle (waits : s.WaitingAfter k waiting) (stuck : ready waiting = []) :
    name ∈ waiting.map Repository.name ↔ s.ReachesCycle name := by
  constructor
  · intro inside
    obtain ⟨r, member, rfl⟩ := List.mem_map.mp inside
    by_contra never
    have members : ∀ r ∈ waiting, r ∈ s.members := fun _ member => waits.sublist.subset member
    exact not_acc_of_stuck stuck members member (acc_of_not_reachesCycle never)
  · intro cyclic
    obtain ⟨other, ⟨r, member, rfl, -⟩, -⟩ := cyclic.hasChain 1
    exact List.mem_map_of_mem ((waits.mem_iff r member).mpr (cyclic.hasChain k))

end WaitingAfter

/-! ## The order -/

/-- A repository stands before another one in an order by depth and then by name. -/
def Before (s : RepositorySet) (a b : Repository) : Prop :=
  ∀ m n, s.IsDepth a.name m → s.IsDepth b.name n → m < n ∨ m = n ∧ a.name < b.name

/-- Every member stands in an order once, after all that it depends on, directly or not. Members are
listed by their depth and those of one depth by name. -/
structure InOrder (s : RepositorySet) (order : List Repository) : Prop where
  perm : order.Perm s.members
  nodup : (order.map Repository.name).Nodup
  after : ∀ front r back, order = front ++ r :: back →
    ∀ other, Relation.TransGen s.DependsOn r.name other → other ∈ front.map Repository.name
  depth : ∀ r ∈ order, ∃ n, s.IsDepth r.name n
  sorted : order.Pairwise s.Before

/-- A name has one depth. -/
theorem IsDepth.unique {m : Nat} (one : s.IsDepth name m) (two : s.IsDepth name n) : m = n :=
  IsGreatest.unique one two

/-- What is ordered from some round on has at least the depth of the round and is listed by depth
and name. -/
theorem before_of_layered (waits : s.WaitingAfter k waiting)
    (ordered : layered waiting = .ok order) :
    (∀ r ∈ order, ∃ n, k ≤ n ∧ s.IsDepth r.name n) ∧ order.Pairwise s.Before := by
  fun_induction layered waiting generalizing k order with
  | case1 =>
    cases ordered
    exact ⟨fun _ none => absurd none List.not_mem_nil, .nil⟩
  | case2 => cases ordered
  | case3 waiting _ _ ih =>
    obtain ⟨tail, orderedTail, made⟩ := Result.bind_eq_ok.mp ordered
    cases made
    obtain ⟨depths, sorted⟩ := ih waits.blocked orderedTail
    have first {r : Repository} (member : r ∈ ready waiting) : s.IsDepth r.name k :=
      (waits.mem_ready.mp member).2
    constructor
    · intro r member
      rcases List.mem_append.mp member with now | later
      · exact ⟨k, Nat.le_refl k, first now⟩
      · obtain ⟨n, after, deep⟩ := depths r later
        exact ⟨n, Nat.le_of_succ_le after, deep⟩
    · refine List.pairwise_append.mpr ⟨?_, sorted, fun a now b later m n ofA ofB => ?_⟩
      · have names : (ready waiting).Pairwise fun a b => a.name < b.name :=
          s.ascending.sublist (List.filter_sublist.trans waits.sublist)
        refine names.imp_of_mem fun inA inB less m n ofA ofB => .inr ⟨?_, less⟩
        rw [ofA.unique (first inA), ofB.unique (first inB)]
      · obtain ⟨depth, after, deep⟩ := depths b later
        rw [ofA.unique (first now), ofB.unique deep]
        exact .inl after

/-- Where ordering fails, some repositories wait in a round that finds nothing ready. -/
theorem stuck_of_layered {f : DefinitionFault} (waits : s.WaitingAfter k waiting)
    (failed : layered waiting = .error f) : ∃ n stuck, s.WaitingAfter n stuck ∧ ready stuck = [] ∧
      f = .circular (stuck.map Repository.name) := by
  fun_induction layered waiting generalizing k with
  | case1 => cases failed
  | case2 waiting _ stuck =>
    cases failed
    exact ⟨k, waiting, waits, stuck, rfl⟩
  | case3 waiting _ _ ih =>
    cases rest : layered (RepositorySet.blocked waiting) with
    | ok tail =>
      rw [rest] at failed
      cases failed
    | error g =>
      rw [rest] at failed
      cases failed
      exact ih waits.blocked rest

/-- An order of dependencies is an order in this sense. -/
theorem InOrder.of_dependencyOrder (ordered : s.dependencyOrder = .ok order) : s.InOrder order := by
  have perm := perm_of_dependencyOrder ordered
  have layers : layered s.members = .ok order := by
    unfold dependencyOrder at ordered
    split at ordered
    · next found =>
      cases ordered
      exact found
    · cases ordered
  obtain ⟨depths, sorted⟩ := before_of_layered s.waitingAfter_members layers
  have depth (r : Repository) (member : r ∈ order) : ∃ n, s.IsDepth r.name n := by
    obtain ⟨n, -, deep⟩ := depths r member
    exact ⟨n, deep⟩
  refine ⟨perm, ?_, fun front r back split other path => ?_, depth, sorted⟩
  · exact (perm.map Repository.name).nodup_iff.mpr (Keyed.nodup_keys s.ascending)
  · have own : r ∈ order := split ▸ List.mem_append_right front List.mem_cons_self
    obtain ⟨target, member, rfl⟩ := mem_names.mp
      (mem_names_of_reaches path.to_reflTransGen (name_mem_names (perm.subset own)))
    have inside := perm.mem_iff.mpr member
    obtain ⟨m, deep⟩ := depth r own
    obtain ⟨n, below⟩ := depth target inside
    have less : n < m := deep.lt_of_transGen path below
    rw [split] at inside sorted
    rcases List.mem_append.mp inside with before | rest
    · exact List.mem_map_of_mem before
    · -- neither the repository itself nor anything behind it has a smaller depth
      rcases List.mem_cons.mp rest with rfl | behind
      · exact absurd (deep.unique below) (Nat.ne_of_gt less)
      · have later := (List.pairwise_cons.mp (List.pairwise_append.mp sorted).2.1).1 target behind
        rcases later m n deep below with more | ⟨same, -⟩
        · exact absurd less (Nat.lt_asymm more)
        · exact absurd same (Nat.ne_of_gt less)

/-- Ordering a set ends in one of two ways. A set in which no repository depends on itself, directly
or not, is ordered: each repository once, after all that it depends on, by the length of its longest
chain of dependencies and then by name. In any other set the failure names, in ascending order,
exactly the repositories from which a cycle can be reached. -/
theorem dependencyOrder_total (s : RepositorySet) :
    (s.Acyclic ∧ ∃ order, s.dependencyOrder = .ok order ∧ s.InOrder order) ∨
    (¬ s.Acyclic ∧ ∃ f names, s.dependencyOrder = .error f ∧
      f = .definition (.circular names) none ∧
      f.message = "Circular repository dependencies: " ++ String.intercalate ", " names ∧
      names.Pairwise (· < ·) ∧ ∀ name, name ∈ names ↔ s.ReachesCycle name) := by
  by_cases acyclic : s.Acyclic
  · obtain ⟨order, ordered⟩ := exists_dependencyOrder_iff.mpr acyclic
    exact .inl ⟨acyclic, order, ordered, .of_dependencyOrder ordered⟩
  · refine .inr ⟨acyclic, ?_⟩
    cases found : layered s.members with
    | ok order => exact absurd (acyclic_of_layered found) acyclic
    | error fault =>
      obtain ⟨n, stuck, waits, none_ready, rfl⟩ := stuck_of_layered s.waitingAfter_members found
      have failed : s.dependencyOrder =
          .error (.definition (.circular (stuck.map Repository.name)) none) := by
        unfold dependencyOrder
        rw [found]
      have ascending : (stuck.map Repository.name).Pairwise (· < ·) :=
        List.pairwise_map.mpr (s.ascending.sublist waits.sublist)
      exact ⟨_, _, failed, rfl, rfl, ascending, fun _ => waits.mem_iff_reachesCycle none_ready⟩

end RepositorySet

end ModelForge
