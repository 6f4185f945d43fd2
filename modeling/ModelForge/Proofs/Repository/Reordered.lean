import ModelForge.Proofs.Repository.Dependencies
import ModelForge.Proofs.Step
import ModelForge.Proofs.Text.Keyed
import ModelForge.Repository.Discovery

/-! # Repositories in another order

Repositories form a set exactly when their names are distinct and every dependency is among them
(`ModelForge.RepositorySet.exists_ofList?_iff`). Neither this nor the set depends on the order in
which they are given (`ModelForge.RepositorySet.ofList?_of_perm`), so the order of the descriptors
of a run leaves no trace in the repositories that it finds
(`ModelForge.Discovery.discover_cases`).
-/

namespace ModelForge

namespace RepositorySet

variable {rs rs' : List Repository} {r : Repository} {s : RepositorySet} {names : List String}
  {ms : { ms : List Repository // Keyed.Ascending Repository.name ms }}

/-- Repositories are collected exactly if their names are distinct and new. -/
theorem exists_collect_iff : (∃ out, collect ms rs = .ok out) ↔
    (rs.map Repository.name).Nodup ∧ ∀ r ∈ rs, ∀ m ∈ ms.1, m.name ≠ r.name := by
  induction rs generalizing ms with
  | nil => exact ⟨fun _ => ⟨List.nodup_nil, fun _ none => (nomatch none)⟩, fun _ => ⟨ms, rfl⟩⟩
  | cons first rest ih =>
    rw [List.map_cons, List.nodup_cons, List.forall_mem_cons]
    unfold collect
    split
    · next taken found =>
      obtain ⟨member, same⟩ := Keyed.find?_eq_some found
      exact ⟨fun ⟨_, no⟩ => (nomatch no), fun ⟨_, new, _⟩ => absurd same (new taken member)⟩
    · next free =>
      have new := Keyed.find?_eq_none.mp free
      rw [ih]
      constructor
      · rintro ⟨distinct, fresh⟩
        refine ⟨⟨fun inside => ?_, distinct⟩, new, fun r member m known =>
          fresh r member m (Keyed.mem_insert.mpr (.inr known))⟩
        obtain ⟨r, member, same⟩ := List.mem_map.mp inside
        exact fresh r member first (Keyed.mem_insert.mpr (.inl rfl)) same.symm
      · rintro ⟨⟨absent, distinct⟩, -, fresh⟩
        refine ⟨distinct, fun r member m known => ?_⟩
        rcases Keyed.mem_insert.mp known with rfl | known
        · exact fun same => absent (List.mem_map.mpr ⟨r, member, same.symm⟩)
        · exact fresh r member m known

/-- Nothing is unmet exactly if all dependencies are among the names. -/
theorem unmet_eq_none : unmet names r = none ↔ ∀ d ∈ r.dependencies, d ∈ names := by
  constructor
  · exact fun met d => mem_of_unmet_eq_none met
  · intro each
    have nothing : (r.dependencies.filter fun d => !names.contains d) = [] := by
      refine List.filter_eq_nil_iff.mpr fun d dependency => ?_
      simpa using each d dependency
    unfold unmet
    rw [nothing]
    rfl

/-- Repositories form a set exactly if their names are distinct and every dependency is given. -/
theorem exists_ofList?_iff : (∃ s, ofList? rs = .ok s) ↔ (rs.map Repository.name).Nodup ∧
    ∀ r ∈ rs, ∀ d ∈ r.dependencies, d ∈ rs.map Repository.name := by
  have distinct_iff : (∃ out, collect ⟨[], List.Pairwise.nil⟩ rs = .ok out) ↔
      (rs.map Repository.name).Nodup := by
    rw [exists_collect_iff]
    exact and_iff_left fun _ _ _ none => (nomatch none)
  unfold ofList?
  split
  · next fault collected =>
    refine ⟨fun ⟨_, no⟩ => (nomatch no), fun ⟨distinct, _⟩ => ?_⟩
    obtain ⟨ms, known⟩ := distinct_iff.mpr distinct
    cases collected.symm.trans known
  · next ms collected =>
    have distinct : (rs.map Repository.name).Nodup := distinct_iff.mp ⟨ms, collected⟩
    have named (name : String) :
        name ∈ ms.1.map Repository.name ↔ name ∈ rs.map Repository.name := by
      simp [mem_collect collected]
    split
    · next fault met =>
      refine ⟨fun ⟨_, no⟩ => (nomatch no), fun ⟨_, each⟩ => ?_⟩
      obtain ⟨r, member, unmet⟩ := List.exists_of_findSome?_eq_some met
      have none := unmet_eq_none.mpr fun d dependency => (named d).mpr (each r member d dependency)
      cases unmet.symm.trans none
    · next met =>
      refine ⟨fun _ => ⟨distinct, fun r member d dependency => (named d).mp ?_⟩, fun _ => ⟨_, rfl⟩⟩
      exact unmet_eq_none.mp (List.findSome?_eq_none_iff.mp met r member) d dependency

/-- The members of a set are the repositories that it was made of. -/
theorem mem_of_ofList? {rs : List Repository} (made : ofList? rs = .ok s) :
    r ∈ s.members ↔ r ∈ rs := by
  unfold ofList? at made
  split at made
  · cases made
  · next ms collected =>
    split at made
    · cases made
    · cases made
      simpa using mem_collect collected r

/-- Repositories that form a set form the same set in any other order. -/
theorem ofList?_of_perm (same : rs.Perm rs') (made : ofList? rs = .ok s) :
    ofList? rs' = .ok s := by
  have named := same.map Repository.name
  obtain ⟨distinct, closed⟩ := exists_ofList?_iff.mp ⟨s, made⟩
  obtain ⟨s', made'⟩ : ∃ s', ofList? rs' = .ok s' := by
    refine exists_ofList?_iff.mpr ⟨named.nodup_iff.mp distinct, fun r member d dependency => ?_⟩
    exact named.mem_iff.mp (closed r (same.mem_iff.mpr member) d dependency)
  have nodup (t : RepositorySet) : t.members.Nodup :=
    .of_map _ (Keyed.nodup_keys t.ascending)
  have members : s.members.Perm s'.members := by
    refine (List.perm_ext_iff_of_nodup (nodup s) (nodup s')).mpr fun r => ?_
    rw [mem_of_ofList? made, mem_of_ofList? made', same.mem_iff]
  rw [made', eq_of_members_eq (Keyed.eq_of_perm s.ascending s'.ascending members)]

end RepositorySet

namespace Result

/-- What is resolved one by one is resolved in any other order. -/
theorem mapM_of_perm {ε α β : Type} {f : α → Except ε β} {items items' : List α} {results : List β}
    (same : items.Perm items') (done : items.mapM f = .ok results) :
    ∃ results', items'.mapM f = .ok results' ∧ results.Perm results' := by
  obtain ⟨results', each, moved⟩ := List.perm_comp_forall₂ same.symm (mapM_eq_ok.mp done)
  exact ⟨results', mapM_eq_ok.mpr each, moved.symm⟩

end Result

namespace Discovery

variable {places : Discovery} {around : Surroundings} {d : Disk} {extra extra' : List String}
  {all : RepositorySet}

/-- Finding repositories, step by step. -/
theorem discover_eq [SetOrder] (places : Discovery) (around : Surroundings) (d : Disk)
    (extra : List String) : places.discover around d extra =
      (if places.bundled then bundledRepositories around d else .ok []) >>= fun bundled =>
        (if places.entryPoints then advertised around d else .ok []) >>= fun points =>
          extra.mapM (resolve around d) >>= fun given =>
            match RepositorySet.ofList? (bundled ++ points ++ given) with
            | .ok repositories => pure repositories
            | .error f => throw (.definition f none) := by
  obtain ⟨bundled, points⟩ := places
  cases bundled <;> cases points <;> rfl

/-- The repositories that are found with some descriptors are found with them in any other order. -/
theorem discover_of_perm [SetOrder] (same : extra.Perm extra')
    (found : places.discover around d extra = .ok all) :
    places.discover around d extra' = .ok all := by
  rw [discover_eq] at found ⊢
  obtain ⟨bundled, fromBundle, found⟩ := Result.bind_eq_ok.mp found
  obtain ⟨points, fromPoints, found⟩ := Result.bind_eq_ok.mp found
  obtain ⟨given, fromExtra, found⟩ := Result.bind_eq_ok.mp found
  obtain ⟨given', fromExtra', moved⟩ := Result.mapM_of_perm same fromExtra
  split at found
  · next made =>
    cases found
    refine Result.bind_eq_ok.mpr ⟨bundled, fromBundle, Result.bind_eq_ok.mpr ⟨points, fromPoints,
      Result.bind_eq_ok.mpr ⟨given', fromExtra', ?_⟩⟩⟩
    rw [RepositorySet.ofList?_of_perm (moved.append_left _) made]
    rfl
  · cases found

/-- In two orders of the same descriptors the same repositories are found, or both times it
fails. -/
theorem discover_cases [SetOrder] (places : Discovery) (around : Surroundings) (d : Disk)
    (same : extra.Perm extra') :
    (∃ all, places.discover around d extra = .ok all ∧
      places.discover around d extra' = .ok all) ∨
    ∃ f f', places.discover around d extra = .error f ∧
      places.discover around d extra' = .error f' := by
  cases found : places.discover around d extra with
  | ok all => exact .inl ⟨all, rfl, discover_of_perm same found⟩
  | error f =>
    cases found' : places.discover around d extra' with
    | ok all => cases found.symm.trans (discover_of_perm same.symm found')
    | error f' => exact .inr ⟨f, f', rfl, rfl⟩

end Discovery

end ModelForge
