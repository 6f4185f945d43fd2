import ModelForge.Proofs.Graph.Preparation

/-! # Parts of a set of repositories

Dependencies never lead out of a set of repositories, so those of a member are the same in any
larger set (`ModelForge.RepositorySet.reaches_iff_of_part`). A part of a well-formed source tree is
well-formed (`ModelForge.RepositorySet.WellFormed.of_part`), and its graph holds those elements of
the larger one that its repositories declare (`ModelForge.Graph.Rebuilt.elements_of_part`).
-/

namespace ModelForge

namespace RepositorySet

variable {s t : RepositorySet} {name other : String} {d : Disk}

/-- All members of the first set are members of the second. -/
def PartOf (t s : RepositorySet) : Prop := t.members ⊆ s.members

/-- A part has no dependencies of its own. -/
theorem DependsOn.of_part (part : PartOf t s) (step : t.DependsOn name other) :
    s.DependsOn name other := by
  obtain ⟨r, member, same, dependency⟩ := step
  exact ⟨r, part member, same, dependency⟩

/-- A part has all dependencies of its members. -/
theorem dependsOn_iff_of_part (part : PartOf t s) (known : name ∈ t.names) :
    t.DependsOn name other ↔ s.DependsOn name other := by
  refine ⟨DependsOn.of_part part, fun step => ?_⟩
  obtain ⟨r, member, same, dependency⟩ := step
  obtain ⟨r', member', same'⟩ := mem_names.mp known
  cases eq_of_name_eq member (part member') (same.trans same'.symm)
  exact ⟨r, member', same, dependency⟩

/-- What can be reached from a member of a part is the same in the whole set. -/
theorem reaches_iff_of_part (part : PartOf t s) (known : name ∈ t.names) :
    t.Reaches name other ↔ s.Reaches name other := by
  constructor
  · intro path
    exact Relation.ReflTransGen.mono (fun _ _ => DependsOn.of_part part) _ _ path
  · intro path
    induction path with
    | refl => exact .refl
    | tail _ step ih =>
      have inside := mem_names_of_reaches ih known
      exact ih.tail ((dependsOn_iff_of_part part inside).mpr step)

/-- A member of a part sees the same repositories in it as in the whole set. -/
theorem sees_iff_of_part (part : PartOf t s) (known : name ∈ t.names) :
    t.Sees name other ↔ s.Sees name other := and_congr_left' (reaches_iff_of_part part known)

/-- A part of an acyclic set is acyclic. -/
theorem Acyclic.of_part (part : PartOf t s) (acyclic : s.Acyclic) : t.Acyclic :=
  fun name cycle =>
    acyclic name (Relation.TransGen.mono (fun _ _ => DependsOn.of_part part) _ _ cycle)

/-! ## What a part declares -/

/-- The members of a part, picked from the whole set by their names. -/
theorem members_of_part (part : PartOf t s) :
    t.members = s.members.filter fun r => t.names.contains r.name := by
  refine Keyed.eq_of_perm t.ascending (s.ascending.filter _) ?_
  have nodup (u : RepositorySet) : u.members.Nodup :=
    List.Nodup.of_map _ (Keyed.nodup_keys u.ascending)
  refine (List.perm_ext_iff_of_nodup (nodup t) ((nodup s).filter _)).mpr fun r => ?_
  rw [List.mem_filter, List.contains_iff_mem]
  constructor
  · intro member
    exact ⟨part member, name_mem_names member⟩
  · rintro ⟨member, known⟩
    obtain ⟨r', member', same⟩ := mem_names.mp known
    cases eq_of_name_eq (part member') member same
    exact member'

/-- A part declares what the whole declares in its repositories. -/
theorem declares_of_part [SetOrder] (part : PartOf t s) (d : Disk) :
    t.declares d = (s.declares d).filter fun e => t.names.contains e.repository := by
  unfold declares
  rw [List.filter_flatMap]
  -- on the right the names are those of the members of `t`, which are to stay as they are
  conv_lhs => rw [members_of_part part]
  generalize s.members = members
  induction members with
  | nil => rfl
  | cons r members ih =>
    have tagged : ∀ e ∈ r.declares d, e.repository = r.name :=
      fun e member => (Repository.tagged_of_declares member).1
    rw [List.flatMap_cons]
    by_cases picked : t.names.contains r.name = true
    · rw [List.filter_cons_of_pos (p := fun r : Repository => t.names.contains r.name) picked,
        List.flatMap_cons, ih]
      congr 1
      symm
      refine List.filter_eq_self.mpr fun e member => ?_
      rw [tagged e member]
      exact picked
    · rw [List.filter_cons_of_neg (p := fun r : Repository => t.names.contains r.name) picked, ih]
      have none : ((r.declares d).filter fun e => t.names.contains e.repository) = [] := by
        refine List.filter_eq_nil_iff.mpr fun e member => ?_
        rw [tagged e member]
        exact picked
      rw [none, List.nil_append]

/-- A part of a well-formed source tree is well-formed. -/
theorem WellFormed.of_part [SetOrder] (part : PartOf t s) (wellFormed : s.WellFormed s.Sees d) :
    t.WellFormed t.Sees d := by
  have declared : ∀ {e}, e ∈ t.declares d ↔ e ∈ s.declares d ∧ e.repository ∈ t.names := by
    intro e
    rw [declares_of_part part, List.mem_filter, List.contains_iff_mem]
  refine ⟨wellFormed.acyclic.of_part part, fun r member => wellFormed.readable r (part member),
    ?_, fun e member => ?_⟩
  · rw [declares_of_part part]
    exact wellFormed.distinct.sublist (List.filter_sublist.map _)
  · obtain ⟨inside, known⟩ := declared.mp member
    refine (wellFormed.resolved e inside).imp fun target found seen => ?_
    have seen' := (sees_iff_of_part part known).mpr seen
    exact ⟨declared.mpr ⟨found, mem_names_of_reaches seen'.1 known⟩, seen'⟩

/-! ## Selections -/

variable {all : RepositorySet} {selected selected' : List String}

/-- A selection inside another one gives a part of its set. -/
theorem exists_subset_of_closure {s' : RepositorySet} (sub' : all.subset selected' = .ok s')
    (inside : ∀ name ∈ all.closure selected, name ∈ all.closure selected') :
    ∃ s, all.subset selected = .ok s ∧ PartOf s s' := by
  have known : ∀ name ∈ selected, name ∈ all.names := by
    intro name chosen
    have reached := inside name (mem_closure.mpr ⟨name, chosen, .refl⟩)
    obtain ⟨start, chosen', path⟩ := mem_closure.mp reached
    exact mem_names_of_reaches path ((subset_eq_ok.mp sub').1 start chosen')
  refine ⟨all.restrict selected, subset_eq_ok.mpr ⟨known, rfl⟩, fun r member => ?_⟩
  obtain ⟨member, reached⟩ := mem_restrict.mp member
  obtain ⟨-, rfl⟩ := subset_eq_ok.mp sub'
  exact mem_restrict.mpr ⟨member, mem_closure.mp (inside r.name (mem_closure.mpr reached))⟩

end RepositorySet

namespace Graph

variable {d : Disk} {s t : RepositorySet} {g g' : Graph}

/-- A rebuild of a part gives the elements of its repositories. -/
theorem Rebuilt.elements_of_part [SetOrder] (part : RepositorySet.PartOf t s)
    (rebuilt : Rebuilt d s g) (rebuilt' : Rebuilt d t g') :
    g'.elements = g.elements.filter fun e => t.names.contains e.repository := by
  refine Keyed.eq_of_perm g'.ascending (g.ascending.filter _) (rebuilt'.elements.trans ?_)
  rw [RepositorySet.declares_of_part part]
  exact (rebuilt.elements.filter _).symm

end Graph

end ModelForge
