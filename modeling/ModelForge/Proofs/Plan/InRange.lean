import ModelForge.Proofs.Graph.Preparation
import ModelForge.Proofs.Plan.Units
import ModelForge.Proofs.Repository.Selected

/-! # Names that later stages look up

All names of a selection are known, so the stages behind it find what they look up: the graph has
the repositories that are selected with all they depend on, and every unit of a modular plan is
named after one of them (`ModelForge.RepositorySet.select_in_range`).
-/

namespace ModelForge

namespace RepositorySet

/-- A selection fails exactly if some requested name is unknown, and then lists the unknown ones.
Otherwise it holds the requested names, or all if none is requested, less the excluded ones, and
they have a subset. Every graph that is prepared for the selection has the repositories of the
subset, and every modular plan has a unit for each of the selected names, which is the name of one
of these repositories. -/
theorem select_in_range [SetOrder] (s : RepositorySet) (requested excluded : List String) :
    ((∃ f, s.select requested excluded = .error f) ↔ ∃ n ∈ requested, n ∉ s.names) ∧
    (∀ f, s.select requested excluded = .error f →
      ∃ missing, f = .unknownRepositories missing ∧ missing.Pairwise (· < ·) ∧
        ∀ n, n ∈ missing ↔ n ∈ requested ∧ n ∉ s.names) ∧
    ∀ selected, s.select requested excluded = .ok selected →
      selected.Pairwise (· < ·) ∧
      (∀ n, n ∈ selected ↔
        (if requested = [] then n ∈ s.names else n ∈ requested) ∧ n ∉ excluded) ∧
      ∃ sub, s.subset selected = .ok sub ∧
        (∀ d cache l g miss l', Preparation.run d s selected cache l = (.ok g, miss, l') →
          g.repositories = sub) ∧
        ((∃ plan, Plan.build .modular selected = .ok plan) ↔ ∀ n ∈ selected, n.isEmpty = false) ∧
        ∀ plan, Plan.build .modular selected = .ok plan →
          plan.units = selected.map Plan.unitOf ∧
          ∀ u ∈ plan.units, ∃ r ∈ sub.members, u = Plan.unitOf r.name := by
  refine ⟨⟨?_, ?_⟩, fun f failed => (select_eq_error.mp failed).2, fun selected chosen => ?_⟩
  · rintro ⟨f, failed⟩
    exact (select_eq_error.mp failed).1
  · intro some_unknown
    exact ⟨_, select_eq_error.mpr ⟨some_unknown, _, rfl, pairwise_unknown s requested,
      fun n => mem_unknown⟩⟩
  obtain ⟨-, ascending, members⟩ := select_eq_ok.mp chosen
  have inside : ∀ n ∈ selected, n ∈ s.names := fun n => mem_names_of_select chosen
  have sub : s.subset selected = .ok (s.restrict selected) := subset_eq_ok.mpr ⟨inside, rfl⟩
  refine ⟨ascending, members, s.restrict selected, sub, ?_, Plan.exists_build_iff, ?_⟩
  · intro d cache l g miss l' done
    exact Except.ok.inj ((Graph.repositories_of_run done).symm.trans sub)
  · intro plan built
    refine ⟨Plan.units_of_build built, fun u member => ?_⟩
    rw [Plan.units_of_build built] at member
    obtain ⟨n, selects, rfl⟩ := List.mem_map.mp member
    obtain ⟨r, among, rfl⟩ := mem_names.mp (inside n selects)
    exact ⟨r, mem_restrict.mpr ⟨among, r.name, selects, .refl⟩, rfl⟩

attribute [local instance] SetOrder.asWritten in
/-- One name is requested twice, and an unknown one is excluded. -/
theorem select_repeated : ∃ selected g miss l' plan,
    Sample.repositories.select ["q", "platform", "q"] ["none"] = .ok selected ∧
    Preparation.run Sample.disk Sample.repositories selected .none .empty = (.ok g, miss, l') ∧
    Plan.build .modular selected = .ok plan ∧
    plan.units = [Plan.unitOf "platform", Plan.unitOf "q"] ∧
    ∀ u ∈ plan.units, ∃ r ∈ g.repositories.members, u = Plan.unitOf r.name := by
  have chosen : Sample.repositories.select ["q", "platform", "q"] ["none"] =
      .ok ["platform", "q"] := rfl
  obtain ⟨g, miss, l', done, -, -⟩ := Sample.exists_run
  obtain ⟨-, -, later⟩ := select_in_range Sample.repositories ["q", "platform", "q"] ["none"]
  obtain ⟨-, -, sub, -, prepared, plans, units⟩ := later ["platform", "q"] chosen
  obtain ⟨plan, built⟩ := plans.mpr (by decide)
  obtain ⟨same, each⟩ := units plan built
  rw [← prepared _ _ _ g miss l' done] at each
  exact ⟨_, g, miss, l', plan, chosen, done, built, same, each⟩

end RepositorySet

end ModelForge
