import ModelForge.Proofs.Graph.Preparation
import ModelForge.Proofs.Graph.Snapshot
import ModelForge.Proofs.Lists

/-! # Unchanged source trees

Sets of repositories with the same fingerprints declare the same, as long as the fingerprints tell
their source trees apart (`ModelForge.RepositorySet.declares_eq_of_samePrints`). While the source
trees of its members are unchanged, a set keeps its fingerprints
(`ModelForge.RepositorySet.fingerprints_eq_of_tree`) and stays well-formed
(`ModelForge.RepositorySet.WellFormed.of_tree`), and a graph stays what a rebuild gives
(`ModelForge.Graph.Rebuilt.of_tree`).
-/

namespace ModelForge

namespace RepositorySet

variable {d d' : Disk} {s s' : RepositorySet} {current current' : List (String × String)}

/-- The names of a set are settled by which they are. -/
theorem names_eq_of_mem (same : ∀ name, name ∈ s.names ↔ name ∈ s'.names) : s.names = s'.names :=
  Names.eq_of_mem (List.pairwise_map.mpr s.ascending) (List.pairwise_map.mpr s'.ascending) same

/-- Two sets with the same names hold members of the same names one beside the other. -/
theorem forall₂_members (same : s.names = s'.names) :
    List.Forall₂ (fun r r' : Repository => r.name = r'.name) s.members s'.members :=
  List.forall₂_map_left_iff.mp (List.forall₂_map_right_iff.mp (List.forall₂_eq_eq_eq ▸ same))

/-- Fingerprints under the same names with the same texts. -/
def SamePrints (current current' : List (String × String)) : Prop :=
  ∀ name print, (name, print) ∈ current ↔ (name, print) ∈ current'

/-- Fingerprints that are the same belong to members of the same names. -/
theorem names_eq_of_samePrints (known : s.fingerprints d = .ok current)
    (known' : s'.fingerprints d' = .ok current') (same : SamePrints current current') :
    s.names = s'.names := by
  refine names_eq_of_mem fun name => ?_
  rw [← names_of_fingerprints known, ← names_of_fingerprints known']
  simp only [List.mem_map, Prod.exists, exists_and_right, exists_eq_right]
  exact exists_congr fun print => same name print

/-- Members of one name with the same fingerprints have the same fingerprint. -/
theorem fingerprint_of_samePrints (known : s.fingerprints d = .ok current)
    (known' : s'.fingerprints d' = .ok current') (same : SamePrints current current')
    {r r' : Repository} (member : r ∈ s.members) (member' : r' ∈ s'.members)
    (name : r.name = r'.name) :
    ∃ print, r.fingerprint d = .ok print ∧ r'.fingerprint d' = .ok print := by
  have listed : r.name ∈ current.map Prod.fst := by
    rw [names_of_fingerprints known]
    exact name_mem_names member
  obtain ⟨⟨n, print⟩, pair, named⟩ := List.mem_map.mp listed
  obtain ⟨q, inside, qName, printed⟩ := (mem_fingerprints known).mp pair
  obtain ⟨q', inside', qName', printed'⟩ := (mem_fingerprints known').mp ((same n print).mp pair)
  cases eq_of_name_eq inside member (qName.trans named)
  cases eq_of_name_eq inside' member' (qName'.trans (named.trans name))
  exact ⟨print, printed, printed'⟩

/-- The fingerprints tell the source trees of two sets apart: members of one name with one
fingerprint have one source tree. -/
def FingerprintsSeparate (d : Disk) (s : RepositorySet) (d' : Disk) (s' : RepositorySet) : Prop :=
  ∀ r ∈ s.members, ∀ r' ∈ s'.members, r.name = r'.name →
    ∀ print, r.fingerprint d = .ok print → r'.fingerprint d' = .ok print → r.tree d = r'.tree d'

/-- With the same fingerprints, told apart, two sets declare the same. -/
theorem declares_eq_of_samePrints [SetOrder] (known : s.fingerprints d = .ok current)
    (known' : s'.fingerprints d' = .ok current') (same : SamePrints current current')
    (separate : FingerprintsSeparate d s d' s') (readable : ∀ r ∈ s.members, r.Readable d) :
    (∀ r ∈ s'.members, r.Readable d') ∧ s.declares d = s'.declares d' := by
  have names := names_eq_of_samePrints known known' same
  have each : ∀ r ∈ s.members, ∀ r' ∈ s'.members, r.name = r'.name →
      r'.Readable d' ∧ r.declares d = r'.declares d' := by
    intro r member r' member' name
    obtain ⟨print, printed, printed'⟩ :=
      fingerprint_of_samePrints known known' same member member' name
    have trees := separate r member r' member' name print printed printed'
    obtain ⟨t, tree⟩ := Repository.tree_of_fingerprint printed
    exact Repository.declares_eq_of_declared
      (Repository.declared_eq_of_tree name tree (trees ▸ tree)) (readable r member)
  refine ⟨fun r' member' => ?_, ?_⟩
  · obtain ⟨r, member, name⟩ := mem_names.mp (names ▸ name_mem_names member')
    exact (each r member r' member' name).1
  · exact flatMap_eq_of_forall₂ (forall₂_members names)
      fun r member r' member' name => (each r member r' member' name).2

/-- Where the source trees of the members are unchanged, so is what they declare. -/
theorem declares_eq_of_tree [SetOrder] (unchanged : ∀ r ∈ s.members, r.tree d = r.tree d')
    (readable : ∀ r ∈ s.members, r.Readable d) :
    (∀ r ∈ s.members, r.Readable d') ∧ s.declares d = s.declares d' := by
  have each : ∀ r ∈ s.members, r.Readable d' ∧ r.declares d = r.declares d' := by
    intro r member
    obtain ⟨t, known⟩ := Repository.tree_of_readable (readable r member)
    exact Repository.declares_eq_of_declared
      (Repository.declared_eq_of_tree rfl known (unchanged r member ▸ known)) (readable r member)
  exact ⟨fun r member => (each r member).1, List.flatMap_congr fun r member => (each r member).2⟩

/-- A source tree stays well-formed while it is unchanged. -/
theorem WellFormed.of_tree [SetOrder] {sees : String → String → Prop}
    (wellFormed : s.WellFormed sees d)
    (unchanged : ∀ r ∈ s.members, r.tree d = r.tree d') : s.WellFormed sees d' := by
  obtain ⟨readable, same⟩ := declares_eq_of_tree unchanged wellFormed.readable
  refine ⟨wellFormed.acyclic, readable, ?_, ?_⟩
  · rw [← same]
    exact wellFormed.distinct
  · rw [← same]
    exact wellFormed.resolved

/-- Where the source trees of the members are unchanged, so are the fingerprints. -/
theorem fingerprints_eq_of_tree [SetOrder] (unchanged : ∀ r ∈ s.members, r.tree d = r.tree d')
    (readable : ∀ r ∈ s.members, r.Readable d) : s.fingerprints d = s.fingerprints d' := by
  unfold fingerprints
  refine Result.mapM_congr fun r member => ?_
  obtain ⟨t, known⟩ := Repository.tree_of_readable (readable r member)
  rw [Repository.fingerprint_of_tree known,
    Repository.fingerprint_of_tree (unchanged r member ▸ known)]

/-- While the fingerprints of one selection are unchanged, another one has the same exactly when
both have the same closure. -/
theorem samePrints_iff_closure {all : RepositorySet} {selected selected' : List String}
    (sub : all.subset selected = .ok s) (sub' : all.subset selected' = .ok s')
    (known : s.fingerprints d = .ok current) :
    (∃ current', s'.fingerprints d = .ok current' ∧ SamePrints current current') ↔
      ∀ name, name ∈ all.closure selected ↔ name ∈ all.closure selected' := by
  constructor
  · intro ⟨current', known', same⟩ name
    rw [← mem_names_subset sub, ← mem_names_subset sub', names_eq_of_samePrints known known' same]
  · intro same
    have sets : s = s' := subset_eq_of_closure sub sub' same
    rw [← sets]
    exact ⟨current, known, fun _ _ => Iff.rfl⟩

end RepositorySet

/-- A graph is what a rebuild gives as long as the source trees are the same. -/
theorem Graph.Rebuilt.of_tree [SetOrder] {d d' : Disk} {s : RepositorySet} {g : Graph}
    (rebuilt : Rebuilt d s g) (unchanged : ∀ r ∈ s.members, r.tree d = r.tree d') :
    Rebuilt d' s g := by
  refine ⟨rebuilt.repositories, rebuilt.ready, rebuilt.wellFormed.of_tree unchanged, ?_⟩
  rw [← (RepositorySet.declares_eq_of_tree unchanged rebuilt.wellFormed.readable).2]
  exact rebuilt.elements

end ModelForge
