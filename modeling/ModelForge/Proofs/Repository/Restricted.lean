import ModelForge.Proofs.Repository.Dependencies

/-! # Orders of subsets

Taking off layer after layer commutes with keeping a part that is closed under dependencies
(`ModelForge.RepositorySet.layered_filter`). So the order of a subset is the order of the whole set
without the repositories that are not in it (`ModelForge.RepositorySet.dependencyOrder_subset`).
-/

namespace ModelForge

namespace RepositorySet

variable {s sub : RepositorySet} {r : Repository} {given : List String}
  {waiting order : List Repository} {keep : Repository → Bool}

/-- What is kept of some repositories holds all those that a kept one depends on. -/
def KeepsDependencies (keep : Repository → Bool) (waiting : List Repository) : Prop :=
  ∀ r ∈ waiting, keep r = true → ∀ q ∈ waiting, q.name ∈ r.dependencies → keep q = true

/-- A kept repository waits for the same ones whether the others are there or not. -/
theorem KeepsDependencies.mem_names_iff (kept : KeepsDependencies keep waiting)
    (member : r ∈ waiting) (keeps : keep r = true) {d : String} (dependency : d ∈ r.dependencies) :
    d ∈ (waiting.filter keep).map Repository.name ↔ d ∈ waiting.map Repository.name := by
  simp only [List.mem_map, List.mem_filter]
  constructor
  · rintro ⟨q, ⟨inside, -⟩, same⟩
    exact ⟨q, inside, same⟩
  · rintro ⟨q, inside, rfl⟩
    exact ⟨q, ⟨inside, kept r member keeps q inside dependency⟩, rfl⟩

/-- Whether something is ready does not depend on what was left out. -/
theorem KeepsDependencies.free_eq (kept : KeepsDependencies keep waiting) (member : r ∈ waiting)
    (keeps : keep r = true) :
    (r.dependencies.all fun d => !((waiting.filter keep).map Repository.name).contains d) =
      r.dependencies.all fun d => !(waiting.map Repository.name).contains d := by
  rw [Bool.eq_iff_iff]
  simp only [List.all_eq_true, Bool.not_eq_true', Bool.eq_false_iff, ne_eq, List.contains_iff_mem]
  refine forall₂_congr fun d dependency => not_congr ?_
  exact kept.mem_names_iff member keeps dependency

/-- Looking only at the kept ones commutes with any choice by who is free. -/
theorem KeepsDependencies.filter_free (kept : KeepsDependencies keep waiting)
    (choice : Bool → Bool) :
    ((waiting.filter keep).filter fun r => choice
      (r.dependencies.all fun d => !((waiting.filter keep).map Repository.name).contains d)) =
    (waiting.filter fun r => choice
      (r.dependencies.all fun d => !(waiting.map Repository.name).contains d)).filter keep := by
  rw [List.filter_filter, List.filter_filter]
  refine List.filter_congr fun r member => ?_
  by_cases keeps : keep r = true
  · rw [kept.free_eq member keeps, Bool.and_comm]
  · simp [keeps]

/-- What is ready of a part is the part of what is ready. -/
theorem KeepsDependencies.ready_filter (kept : KeepsDependencies keep waiting) :
    ready (waiting.filter keep) = (ready waiting).filter keep := kept.filter_free id

/-- What is blocked of a part is the part of what is blocked. -/
theorem KeepsDependencies.blocked_filter (kept : KeepsDependencies keep waiting) :
    RepositorySet.blocked (waiting.filter keep) = (RepositorySet.blocked waiting).filter keep :=
  kept.filter_free fun free => !free

/-- What still waits keeps its dependencies. -/
theorem KeepsDependencies.blocked (kept : KeepsDependencies keep waiting) :
    KeepsDependencies keep (RepositorySet.blocked waiting) :=
  fun r member keeps q inside dependency =>
    kept r (mem_blocked_iff.mp member).1 keeps q (mem_blocked_iff.mp inside).1 dependency

theorem layered_nil : layered [] = .ok [] := by
  unfold layered
  rfl

/-- Where none is ready all are blocked. -/
theorem blocked_of_stuck (stuck : ready waiting = []) : blocked waiting = waiting := by
  refine List.filter_eq_self.mpr fun r member => ?_
  have waits := List.filter_eq_nil_iff.mp stuck r member
  rwa [Bool.not_eq_true, ← Bool.not_eq_true'] at waits

/-- Layers of a closed part are the parts of the layers. -/
theorem layered_filter (kept : KeepsDependencies keep waiting)
    (ordered : layered waiting = .ok order) :
    layered (waiting.filter keep) = .ok (order.filter keep) := by
  fun_induction layered waiting generalizing order with
  | case1 =>
    cases ordered
    exact layered_nil
  | case2 => cases ordered
  | case3 waiting _ _ ih =>
    obtain ⟨tail, orderedTail, made⟩ := Result.bind_eq_ok.mp ordered
    cases made
    have others :
        layered (RepositorySet.blocked (waiting.filter keep)) = .ok (tail.filter keep) := by
      rw [kept.blocked_filter]
      exact ih kept.blocked orderedTail
    rw [List.filter_append, ← kept.ready_filter]
    by_cases stuck : ready (waiting.filter keep) = []
    · -- the layer holds nothing of the part, so the part waits as it did before
      rw [blocked_of_stuck stuck] at others
      rw [stuck, List.nil_append, others]
    · have some_waiting : waiting.filter keep ≠ [] := by
        intro none
        rw [none] at stuck
        exact stuck rfl
      rw [layered, if_neg some_waiting, if_neg stuck, others]
      rfl

/-- The order of a subset is the order of the whole set without those outside of it. -/
theorem dependencyOrder_subset (ordered : s.dependencyOrder = .ok order)
    (known : s.subset given = .ok sub) :
    sub.dependencyOrder = .ok (order.filter fun r => sub.contains r.name) := by
  have layers : layered s.members = .ok order := by
    unfold dependencyOrder at ordered
    split at ordered
    · next found =>
      cases ordered
      exact found
    · cases ordered
  have inside (name : String) : (s.closure given).contains name = sub.contains name := by
    rw [Bool.eq_iff_iff, contains, List.contains_iff_mem, List.contains_iff_mem]
    exact (mem_names_subset known name).symm
  have members : sub.members = s.members.filter fun r => sub.contains r.name := by
    simp only [← inside]
    rw [← (subset_eq_ok.mp known).2]
    rfl
  have kept : KeepsDependencies (fun r => sub.contains r.name) s.members := by
    intro r member keeps q _ dependency
    dsimp only at keeps ⊢
    rw [← inside, List.contains_iff_mem] at keeps ⊢
    exact s.closure_closed given keeps (mem_dependenciesOf member dependency)
  unfold dependencyOrder
  rw [members, layered_filter kept layers]

end RepositorySet

end ModelForge
