import ModelForge.Proofs.Text.Keyed
import ModelForge.Repository.Selection

/-! # Selected repositories

A selection is refused exactly if some requested name is unknown, and then all unknown names are
listed (`ModelForge.RepositorySet.select_eq_error`). Otherwise it is settled by which names it holds
(`ModelForge.RepositorySet.select_eq_ok`), so neither the order in which names are requested and
excluded nor how often they are counts.
-/

namespace ModelForge

namespace RepositorySet

variable {s : RepositorySet} {requested excluded selected : List String} {name : String}
  {f : Failure}

/-- The unknown names are those that were requested and are not of members. -/
theorem mem_unknown : name ∈ s.unknown requested ↔ name ∈ requested ∧ name ∉ s.names := by
  unfold unknown contains
  simp

theorem pairwise_unknown (s : RepositorySet) (requested : List String) :
    (s.unknown requested).Pairwise (· < ·) := (Names.pairwise_ofList requested).filter _

/-- Nothing is unknown exactly if all requested names are of members. -/
theorem unknown_eq_nil : s.unknown requested = [] ↔ ∀ n ∈ requested, n ∈ s.names := by
  rw [List.eq_nil_iff_forall_not_mem]
  simp only [mem_unknown, not_and, not_not]

/-- The candidates are the requested names, or all if none is requested. -/
theorem mem_candidates : name ∈ s.candidates requested ↔
    if requested = [] then name ∈ s.names else name ∈ requested := by
  cases requested with
  | nil => exact Iff.rfl
  | cons first rest => exact Names.mem_ofList

theorem pairwise_candidates (s : RepositorySet) (requested : List String) :
    (s.candidates requested).Pairwise (· < ·) := by
  unfold candidates
  split
  · exact List.pairwise_map.mpr s.ascending
  · exact Names.pairwise_ofList requested

/-- A selection is refused exactly if a requested name is unknown, with the list of those. -/
theorem select_eq_error : s.select requested excluded = .error f ↔
    (∃ n ∈ requested, n ∉ s.names) ∧ ∃ missing, f = .unknownRepositories missing ∧
      missing.Pairwise (· < ·) ∧ ∀ n, n ∈ missing ↔ n ∈ requested ∧ n ∉ s.names := by
  have refused : s.select requested excluded = .error f ↔
      s.unknown requested ≠ [] ∧ f = .unknownRepositories (s.unknown requested) := by
    unfold select
    cases s.unknown requested with
    | nil => exact ⟨fun no => (nomatch no), fun no => absurd rfl no.1⟩
    | cons first rest =>
      exact ⟨fun same => ⟨List.cons_ne_nil _ _, (Except.error.inj same).symm⟩,
        fun same => congrArg Except.error same.2.symm⟩
  rw [refused, ne_eq, unknown_eq_nil]
  push Not
  refine and_congr_right fun _ => ⟨fun same => ?_, ?_⟩
  · exact ⟨_, same, pairwise_unknown s requested, fun n => mem_unknown⟩
  · rintro ⟨missing, rfl, ascending, members⟩
    refine congrArg _ (Names.eq_of_mem ascending (pairwise_unknown s requested) fun n => ?_)
    rw [members, mem_unknown]

/-- A selection of known names holds those requested, or all, less the excluded ones. -/
theorem select_eq_ok : s.select requested excluded = .ok selected ↔
    (∀ n ∈ requested, n ∈ s.names) ∧ selected.Pairwise (· < ·) ∧
      ∀ n, n ∈ selected ↔
        (if requested = [] then n ∈ s.names else n ∈ requested) ∧ n ∉ excluded := by
  have given : s.select requested excluded = .ok selected ↔ s.unknown requested = [] ∧
      ((s.candidates requested).filter fun n => !excluded.contains n) = selected := by
    unfold select
    cases s.unknown requested with
    | nil => simp only [Except.ok.injEq, true_and]
    | cons first rest => exact ⟨fun no => (nomatch no), fun no => (nomatch no.1)⟩
  have ascends : ((s.candidates requested).filter fun n => !excluded.contains n).Pairwise
      (· < ·) := (pairwise_candidates s requested).filter _
  have members (n : String) : (n ∈ (s.candidates requested).filter fun n => !excluded.contains n) ↔
      (if requested = [] then n ∈ s.names else n ∈ requested) ∧ n ∉ excluded := by
    rw [List.mem_filter, mem_candidates]
    simp only [Bool.not_eq_true', Bool.eq_false_iff, ne_eq, List.contains_iff_mem]
  rw [given, unknown_eq_nil]
  refine and_congr_right fun _ => ⟨?_, fun ⟨ascending, each⟩ => ?_⟩
  · rintro rfl
    exact ⟨ascends, members⟩
  · exact Names.eq_of_mem ascends ascending fun n => (members n).trans (each n).symm

/-- Whatever is selected is the name of a member. -/
theorem mem_names_of_select (chosen : s.select requested excluded = .ok selected)
    (member : name ∈ selected) : name ∈ s.names := by
  obtain ⟨known, -, members⟩ := select_eq_ok.mp chosen
  obtain ⟨candidate, -⟩ := (members name).mp member
  split at candidate
  · exact candidate
  · exact known name candidate

/-- No name is selected twice. -/
theorem nodup_of_select (chosen : s.select requested excluded = .ok selected) : selected.Nodup :=
  Names.nodup_of_ascending (select_eq_ok.mp chosen).2.1

end RepositorySet

end ModelForge
