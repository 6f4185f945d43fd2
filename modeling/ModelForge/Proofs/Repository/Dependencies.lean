import Mathlib.Data.Fintype.Card
import Mathlib.Data.Fintype.EquivFin
import Mathlib.Data.Fintype.Sets
import Mathlib.Logic.Relation
import Mathlib.Order.WellFounded
import ModelForge.Proofs.Step
import ModelForge.Repository.Basic

/-! # Dependencies between repositories

The closure of some names holds exactly what can be reached from them by dependencies
(`ModelForge.RepositorySet.mem_closure`), so a repository sees itself and its transitive
dependencies (`ModelForge.RepositorySet.visibleFrom_of_mem`). The members of a set can be ordered
exactly when no repository depends on itself, directly or not
(`ModelForge.RepositorySet.exists_dependencyOrder_iff`), and the order then lists each member once.
-/

namespace ModelForge

namespace RepositorySet

variable {s : RepositorySet} {r : Repository} {name other : String} {given : List String}

/-- A member with the first name depends directly on the second one. -/
def DependsOn (s : RepositorySet) (name other : String) : Prop :=
  ∃ r ∈ s.members, r.name = name ∧ other ∈ r.dependencies

/-- The second name can be reached from the first by dependencies. -/
def Reaches (s : RepositorySet) : String → String → Prop := Relation.ReflTransGen s.DependsOn

/-- No repository depends on itself, directly or not. -/
def Acyclic (s : RepositorySet) : Prop := ∀ name, ¬ Relation.TransGen s.DependsOn name name

/-- A cycle of dependencies can be reached from a name. -/
def ReachesCycle (s : RepositorySet) (name : String) : Prop :=
  ∃ other, s.Reaches name other ∧ Relation.TransGen s.DependsOn other other

/-- What is found as dependencies of a name are the dependencies. -/
theorem mem_dependenciesOf_iff : other ∈ s.dependenciesOf name ↔ s.DependsOn name other := by
  unfold dependenciesOf DependsOn
  rw [List.mem_flatMap]
  constructor
  · rintro ⟨r, member, inside⟩
    by_cases same : r.name = name
    · rw [if_pos same] at inside
      exact ⟨r, member, same, inside⟩
    · rw [if_neg same] at inside
      cases inside
  · rintro ⟨r, member, same, inside⟩
    exact ⟨r, member, by rwa [if_pos same]⟩

/-! ## Closures -/

/-- What is reached comes from the visited or the pending names. -/
theorem reaches_of_mem_reach (visited pending : List String) {name : String}
    (reached : name ∈ s.reach visited pending) :
    ∃ start, (start ∈ visited ∨ start ∈ pending) ∧ s.Reaches start name := by
  fun_induction reach s visited pending with
  | case1 visited => exact ⟨name, .inl reached, .refl⟩
  | case2 visited first rest seen ih =>
    obtain ⟨start, from_start, path⟩ := ih reached
    exact ⟨start, from_start.imp_right (List.mem_cons_of_mem first), path⟩
  | case3 visited first rest _ ih =>
    obtain ⟨start, from_start, path⟩ := ih reached
    rcases from_start with seen | pending
    · rcases List.mem_cons.mp seen with rfl | seen
      · exact ⟨start, .inr List.mem_cons_self, path⟩
      · exact ⟨start, .inl seen, path⟩
    · rcases List.mem_append.mp pending with dependency | waiting
      · exact ⟨first, .inr List.mem_cons_self,
          path.head (mem_dependenciesOf_iff.mp dependency)⟩
      · exact ⟨start, .inr (List.mem_cons_of_mem first waiting), path⟩

/-- The closure of some names holds exactly what can be reached from them. -/
theorem mem_closure : name ∈ s.closure given ↔ ∃ start ∈ given, s.Reaches start name := by
  constructor
  · intro reached
    obtain ⟨start, from_start, path⟩ := reaches_of_mem_reach [] given reached
    exact ⟨start, from_start.resolve_left List.not_mem_nil, path⟩
  · rintro ⟨start, member, path⟩
    induction path with
    | refl => exact s.subset_reach [] given (.inr member)
    | tail _ step ih => exact s.closure_closed given ih (mem_dependenciesOf_iff.mpr step)

theorem mem_names : name ∈ s.names ↔ ∃ r ∈ s.members, r.name = name := List.mem_map

theorem name_mem_names (member : r ∈ s.members) : r.name ∈ s.names := List.mem_map_of_mem member

/-- Dependencies lead to members. -/
theorem mem_names_of_reaches (path : s.Reaches name other) (known : name ∈ s.names) :
    other ∈ s.names := by
  induction path with
  | refl => exact known
  | tail _ step _ =>
    obtain ⟨r, member, -, inside⟩ := step
    exact s.closed r member _ inside

/-! ## Subsets -/

/-- A subset is formed of known names, and is the restriction to them. -/
theorem subset_eq_ok {sub : RepositorySet} :
    s.subset given = .ok sub ↔ (∀ n ∈ given, n ∈ s.names) ∧ s.restrict given = sub := by
  unfold subset
  cases missing : given.reverse.find? fun n => !s.contains n with
  | some n =>
    have unknown := List.find?_some missing
    have inside := List.mem_reverse.mp (List.mem_of_find?_eq_some missing)
    refine ⟨fun no => (nomatch no), fun ⟨known, _⟩ => absurd unknown ?_⟩
    simp only [contains, List.contains_iff_mem.mpr (known n inside), Bool.not_true,
      Bool.false_eq_true, not_false_eq_true]
  | none =>
    have known : ∀ n ∈ given, n ∈ s.names := by
      intro n inside
      have found := List.find?_eq_none.mp missing n (List.mem_reverse.mpr inside)
      simpa [contains] using found
    simp only [Except.ok.injEq]
    exact ⟨fun same => ⟨known, same⟩, fun ⟨_, same⟩ => same⟩

/-- The members of a restriction are those that a given name reaches. -/
theorem mem_restrict : r ∈ (s.restrict given).members ↔
    r ∈ s.members ∧ ∃ start ∈ given, s.Reaches start r.name := by
  unfold restrict
  rw [List.mem_filter, List.contains_iff_mem, mem_closure]

/-- A repository sees itself and everything it depends on, directly or not. -/
theorem visibleFrom_of_mem (known : name ∈ s.names) :
    ∃ visible, s.visibleFrom name = .ok visible ∧
      ∀ other, other ∈ visible ↔ s.Reaches name other := by
  have sub : s.subset [name] = .ok (s.restrict [name]) :=
    subset_eq_ok.mpr ⟨fun n only => List.mem_singleton.mp only ▸ known, rfl⟩
  refine ⟨(s.restrict [name]).names, by rw [visibleFrom, sub]; rfl, fun other => ?_⟩
  rw [mem_names]
  constructor
  · rintro ⟨r, inside, rfl⟩
    obtain ⟨-, start, only, path⟩ := mem_restrict.mp inside
    rwa [List.mem_singleton.mp only] at path
  · intro path
    obtain ⟨r, member, rfl⟩ := mem_names.mp (mem_names_of_reaches path known)
    exact ⟨r, mem_restrict.mpr ⟨member, name, List.mem_singleton_self name, path⟩, rfl⟩

/-- In a set the name settles the member. -/
theorem eq_of_name_eq {a b : Repository} (ha : a ∈ s.members) (hb : b ∈ s.members)
    (same : a.name = b.name) : a = b := Keyed.eq_of_key_eq s.ascending ha hb same

/-- Sets with the same members are the same. -/
theorem eq_of_members_eq {t : RepositorySet} (same : s.members = t.members) : s = t := by
  cases s
  cases t
  cases same
  rfl

/-- The names of a subset are the closure of the given ones. -/
theorem mem_names_subset {sub : RepositorySet} (known : s.subset given = .ok sub) (name : String) :
    name ∈ sub.names ↔ name ∈ s.closure given := by
  obtain ⟨members, rfl⟩ := subset_eq_ok.mp known
  rw [mem_closure, mem_names]
  constructor
  · rintro ⟨r, inside, rfl⟩
    exact (mem_restrict.mp inside).2
  · rintro ⟨start, given', path⟩
    obtain ⟨r, member, rfl⟩ := mem_names.mp (mem_names_of_reaches path (members start given'))
    exact ⟨r, mem_restrict.mpr ⟨member, start, given', path⟩, rfl⟩

/-- Selections with the same closure have the same repositories. -/
theorem subset_eq_of_closure {given' : List String} {sub sub' : RepositorySet}
    (known : s.subset given = .ok sub) (known' : s.subset given' = .ok sub')
    (same : ∀ name, name ∈ s.closure given ↔ name ∈ s.closure given') : sub = sub' := by
  obtain ⟨-, rfl⟩ := subset_eq_ok.mp known
  obtain ⟨-, rfl⟩ := subset_eq_ok.mp known'
  refine eq_of_members_eq (List.filter_congr fun r _ => ?_)
  rw [Bool.eq_iff_iff, List.contains_iff_mem, List.contains_iff_mem]
  exact same r.name

/-- A subset has members of the set only. -/
theorem mem_of_mem_subset {sub : RepositorySet} (known : s.subset given = .ok sub)
    (member : r ∈ sub.members) : r ∈ s.members := by
  obtain ⟨-, rfl⟩ := subset_eq_ok.mp known
  exact (mem_restrict.mp member).1

/-- The subset of all names is the whole set. -/
theorem subset_names (s : RepositorySet) : s.subset s.names = .ok s := by
  refine subset_eq_ok.mpr ⟨fun _ member => member, eq_of_members_eq ?_⟩
  refine List.filter_eq_self.mpr fun r member => ?_
  rw [List.contains_iff_mem, mem_closure]
  exact ⟨r.name, name_mem_names member, .refl⟩

/-! ## Orders -/

variable {waiting order : List Repository}

/-- A repository is ready if nothing it depends on waits. -/
theorem mem_ready_iff : r ∈ ready waiting ↔
    r ∈ waiting ∧ ∀ d ∈ r.dependencies, d ∉ waiting.map Repository.name := by
  unfold ready
  simp only [List.mem_filter, List.all_eq_true, Bool.not_eq_true', Bool.eq_false_iff, ne_eq,
    List.contains_iff_mem]

/-- A repository is blocked if something it depends on waits. -/
theorem mem_blocked_iff : r ∈ blocked waiting ↔
    r ∈ waiting ∧ ∃ d ∈ r.dependencies, d ∈ waiting.map Repository.name := by
  unfold blocked
  simp only [List.mem_filter, Bool.not_eq_true', Bool.eq_false_iff, ne_eq, List.all_eq_true,
    List.contains_iff_mem, not_forall, not_not, exists_prop]

/-- From where no cycle can be reached, dependencies do not go on forever. -/
theorem acc_of_not_reachesCycle (never : ¬ s.ReachesCycle name) :
    Acc (fun a b => s.DependsOn b a) name := by
  let Calm := { a : { name // name ∈ s.names } // ¬ s.ReachesCycle a.1 }
  let Deeper (a b : Calm) : Prop := Relation.TransGen s.DependsOn b.1.1 a.1.1
  have : IsTrans Calm Deeper := ⟨fun _ _ _ first second => second.trans first⟩
  have : Std.Irrefl Deeper := ⟨fun a cycle => a.2 ⟨a.1.1, .refl, cycle⟩⟩
  have ends : WellFounded Deeper := Finite.wellFounded_of_trans_of_irrefl _
  have onward {name other : String} (never : ¬ s.ReachesCycle name)
      (step : s.DependsOn name other) : other ∈ s.names ∧ ¬ s.ReachesCycle other := by
    refine ⟨?_, fun ⟨start, path, cycle⟩ => never ⟨start, path.head step, cycle⟩⟩
    obtain ⟨r, member, -, inside⟩ := step
    exact s.closed r member other inside
  have calm (a : Calm) : Acc (fun a b => s.DependsOn b a) a.1.1 := by
    induction a using ends.induction with
    | _ a ih =>
      refine ⟨a.1.1, fun other step => ?_⟩
      obtain ⟨known, still⟩ := onward a.2 step
      exact ih ⟨⟨other, known⟩, still⟩ (.single step)
  refine ⟨name, fun other step => ?_⟩
  obtain ⟨known, still⟩ := onward never step
  exact calm ⟨⟨other, known⟩, still⟩

/-- Where nothing is ready, the dependencies of all that waits go on forever. -/
theorem not_acc_of_stuck (stuck : ready waiting = []) (members : ∀ r ∈ waiting, r ∈ s.members)
    (member : r ∈ waiting) : ¬ Acc (fun a b => s.DependsOn b a) r.name := by
  intro ends
  generalize same : r.name = name at ends
  induction ends generalizing r with
  | intro name _ ih =>
    subst same
    by_cases free : ∀ d ∈ r.dependencies, d ∉ waiting.map Repository.name
    · exact List.ne_nil_of_mem (mem_ready_iff.mpr ⟨member, free⟩) stuck
    · push Not at free
      obtain ⟨d, dependency, waits⟩ := free
      obtain ⟨next, nextMember, rfl⟩ := List.mem_map.mp waits
      exact ih next.name ⟨r, members r member, rfl, dependency⟩ nextMember rfl

/-- Without cycles some repository is always ready. -/
theorem ready_ne_nil (acyclic : s.Acyclic) (members : ∀ r ∈ waiting, r ∈ s.members)
    (some_waiting : waiting ≠ []) : ready waiting ≠ [] := by
  intro stuck
  obtain ⟨r, member⟩ := List.exists_mem_of_ne_nil _ some_waiting
  refine not_acc_of_stuck stuck members member (acc_of_not_reachesCycle ?_)
  exact fun ⟨other, _, cycle⟩ => acyclic other cycle

/-- Repositories without cycles can be ordered. -/
theorem layered_of_acyclic (acyclic : s.Acyclic) (members : ∀ r ∈ waiting, r ∈ s.members) :
    ∃ order, layered waiting = .ok order := by
  fun_induction layered waiting with
  | case1 => exact ⟨[], rfl⟩
  | case2 waiting some_waiting stuck =>
    exact absurd stuck (ready_ne_nil acyclic members some_waiting)
  | case3 waiting some_waiting some_ready ih =>
    obtain ⟨order, ordered⟩ := ih fun r member => members r (mem_blocked_iff.mp member).1
    exact ⟨ready waiting ++ order, by rw [ordered]; rfl⟩

/-- An order lists the repositories it was made of. -/
theorem perm_of_layered (ordered : layered waiting = .ok order) : order.Perm waiting := by
  fun_induction layered waiting generalizing order with
  | case1 =>
    cases ordered
    exact .nil
  | case2 => cases ordered
  | case3 waiting _ _ ih =>
    obtain ⟨tail, orderedTail, made⟩ := Result.bind_eq_ok.mp ordered
    cases made
    exact ((ih orderedTail).append_left _).trans (List.filter_append_perm _ waiting)

/-- Dependencies that lead out of the waiting repositories end, so in an order all of them do. -/
private theorem acc_of_layered (members : ∀ r ∈ s.members, r ∈ waiting ∨
      Acc (fun a b => s.DependsOn b a) r.name)
    (inside : ∀ r ∈ waiting, r ∈ s.members) (ordered : layered waiting = .ok order) :
    ∀ name, Acc (fun a b => s.DependsOn b a) name := by
  fun_induction layered waiting generalizing order with
  | case1 =>
    intro name
    refine ⟨name, fun other step => ?_⟩
    obtain ⟨r, member, rfl, dependency⟩ := step
    have ends := (members r member).resolve_left List.not_mem_nil
    exact ends.inv ⟨r, member, rfl, dependency⟩
  | case2 => cases ordered
  | case3 waiting _ _ ih =>
    obtain ⟨tail, orderedTail, -⟩ := Result.bind_eq_ok.mp ordered
    refine ih (fun r member => ?_)
      (fun r member => inside r (mem_blocked_iff.mp member).1) orderedTail
    rcases members r member with waits | ends
    · by_cases free : ∃ d ∈ r.dependencies, d ∈ waiting.map Repository.name
      · exact .inl (mem_blocked_iff.mpr ⟨waits, free⟩)
      · refine .inr ⟨r.name, fun other step => ?_⟩
        obtain ⟨same, sameMember, sameName, dependency⟩ := step
        cases eq_of_name_eq sameMember member sameName
        obtain ⟨target, targetMember, rfl⟩ := mem_names.mp (s.closed r member other dependency)
        exact (members target targetMember).resolve_left fun waits =>
          free ⟨_, dependency, List.mem_map_of_mem waits⟩
    · exact .inr ends

/-- Only acyclic sets are ordered. -/
theorem acyclic_of_layered (ordered : layered s.members = .ok order) : s.Acyclic := by
  have ends : WellFounded fun a b => s.DependsOn b a :=
    ⟨acc_of_layered (fun r member => .inl member) (fun _ member => member) ordered⟩
  intro name cycle
  have turned : Relation.TransGen (fun a b => s.DependsOn b a) name name :=
    Relation.transGen_swap.mpr cycle
  exact ends.transGen.asymmetric name name turned turned

/-- The members can be ordered exactly when no repository depends on itself. -/
theorem exists_dependencyOrder_iff : (∃ order, s.dependencyOrder = .ok order) ↔ s.Acyclic := by
  unfold dependencyOrder
  constructor
  · rintro ⟨order, ordered⟩
    cases found : layered s.members with
    | ok layers => exact acyclic_of_layered found
    | error f =>
      rw [found] at ordered
      cases ordered
  · intro acyclic
    obtain ⟨order, ordered⟩ := layered_of_acyclic acyclic fun r (member : r ∈ s.members) => member
    exact ⟨order, by rw [ordered]⟩

/-- The order lists the members. -/
theorem perm_of_dependencyOrder (ordered : s.dependencyOrder = .ok order) :
    order.Perm s.members := by
  unfold dependencyOrder at ordered
  cases found : layered s.members with
  | ok layers =>
    rw [found] at ordered
    cases ordered
    exact perm_of_layered found
  | error f =>
    rw [found] at ordered
    cases ordered

end RepositorySet

end ModelForge
