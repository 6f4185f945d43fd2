import ModelForge.Proofs.Graph.Preparation

/-! # Paths of the elements of a prepared graph

An element that is read from a snapshot has a path of identifiers, whoever wrote the snapshot
(`ModelForge.Element.formed_of_check`). So wherever the elements of a prepared graph come from, from
the cache or from source files, their paths are of this form (`ModelForge.Graph.formed_of_run`).
-/

namespace ModelForge

namespace Element

open Schema

variable {entries : List (Value × Value)} {v : Value} {e : Element} {make : Body → Element}

/-- An element of a snapshot has a path of the form of paths. -/
theorem formed_of_shared (reads : shared entries = .valid make) (body : Body) :
    isElementPath (make body).path = true := by
  obtain ⟨make₁, stereotypes, readMake, -, rfl⟩ := Checked.seq_eq_valid.mp reads
  obtain ⟨make₂, source, readMake₁, -, rfl⟩ := Checked.seq_eq_valid.mp readMake
  obtain ⟨make₃, repository, readMake₂, -, rfl⟩ := Checked.seq_eq_valid.mp readMake₁
  obtain ⟨path, readPath, rfl⟩ := Checked.map_eq_valid.mp readMake₂
  obtain ⟨w, formed⟩ := required_eq_valid readPath
  exact form_of_textLike formed

/-- An element is only read if its path is made of identifiers. -/
theorem formed_of_check (reads : check v = .valid e) : isElementPath e.path = true := by
  obtain ⟨entries, option, member, chosen⟩ := exists_of_variant reads
  simp only [List.mem_cons, List.not_mem_nil, or_false] at member
  rcases member with rfl | rfl
  · obtain ⟨make, properties, readMake, -, rfl⟩ :=
      Checked.seq_eq_valid.mp (eq_valid_of_closed chosen)
    obtain ⟨make₁, supertypes, readMake₁, -, rfl⟩ := Checked.seq_eq_valid.mp readMake
    obtain ⟨make₂, readShared, rfl⟩ := Checked.map_eq_valid.mp readMake₁
    exact formed_of_shared readShared _
  · obtain ⟨make, values, readMake, -, rfl⟩ := Checked.seq_eq_valid.mp (eq_valid_of_closed chosen)
    obtain ⟨make₁, readShared, rfl⟩ := Checked.map_eq_valid.mp readMake
    exact formed_of_shared readShared _

end Element

namespace Snapshot

open Schema

/-- Every element of a snapshot that was read has a path made of identifiers. -/
theorem formed_of_ofOctets {bs : Octets} {s : Snapshot} (reads : ofOctets bs = .valid s) :
    ∀ e ∈ s.elements, isElementPath e.path = true := by
  unfold ofOctets at reads
  split at reads
  · obtain ⟨entries, closed⟩ := object_eq_valid reads
    obtain ⟨make, elements, readMake, readElements, rfl⟩ :=
      Checked.seq_eq_valid.mp (eq_valid_of_closed closed)
    obtain ⟨make₁, repositories, readMake₁, -, rfl⟩ := Checked.seq_eq_valid.mp readMake
    obtain ⟨version, -, rfl⟩ := Checked.map_eq_valid.mp readMake₁
    intro e member
    rcases member_eq_valid readElements with ⟨w, listed⟩ | none
    · obtain ⟨u, read⟩ := exists_of_list listed e member
      exact Element.formed_of_check read
    · cases none
      cases member
  · cases reads

end Snapshot

namespace Cache

variable {d : Disk} {g g' : Graph} {content : Octets}

/-- Whatever is added from the octets of a snapshot has a path of identifiers. -/
theorem formed_of_load (loaded : load d content g = (Option.none, g'))
    (formed : ∀ e ∈ g.elements, isElementPath e.path = true) :
    ∀ e ∈ g'.elements, isElementPath e.path = true := by
  unfold load at loaded
  split at loaded
  · cases loaded
  · next s reads =>
    split at loaded
    · cases loaded
    · split at loaded
      · cases loaded
      · split at loaded
        · cases loaded
        · split at loaded
          · next added =>
            cases loaded
            obtain ⟨-, grows⟩ := Graph.grownBy_of_addAll added
            intro e member
            rcases List.mem_append.mp (grows.elements.mem_iff.mp member) with new | old
            · exact Snapshot.formed_of_ofOctets reads e new
            · exact formed e old
          · cases loaded

/-- Elements of a hydrated graph have such paths if those before had. -/
theorem formed_of_hydrate {cache : Cache} {hit : Bool} {miss : Option CacheMiss}
    (hydrated : cache.hydrate d g = .ok (hit, miss, g')) (served : hit = true)
    (formed : ∀ e ∈ g.elements, isElementPath e.path = true) :
    ∀ e ∈ g'.elements, isElementPath e.path = true := by
  unfold hydrate at hydrated
  split at hydrated
  · cases hydrated
    cases served
  · cases hydrated
    exact formed
  · split at hydrated
    · cases hydrated
      cases served
    · cases hydrated
    · cases hydrated
      cases served
    · split at hydrated
      · next loaded =>
        cases hydrated
        exact formed_of_load loaded formed
      · cases hydrated
        cases served

end Cache

namespace Graph

/-- Wherever the elements of a prepared graph come from, their paths are made of identifiers. -/
theorem formed_of_run [SetOrder] {d : Disk} {all : RepositorySet} {selected : List String}
    {cache : Cache} {l l' : Log} {miss : Option CacheMiss} {g : Graph}
    (done : Preparation.run d all selected cache l = (.ok g, miss, l')) :
    ∀ e ∈ g.elements, isElementPath e.path = true := by
  obtain ⟨s, sub, hit, missed, g₁, hydrated, served | notServed⟩ :=
    Preparation.run_eq_ok.mp ⟨miss, l', done⟩
  · obtain ⟨hits, g₂, loaded, completed⟩ := served
    obtain ⟨state, -, rfl⟩ := apply_eq_ok.mp loaded
    obtain ⟨state', -, rfl⟩ := apply_eq_ok.mp completed
    have empty : ∀ e ∈ (new s).elements, isElementPath e.path = true :=
      fun e none => absurd none List.not_mem_nil
    have formed : ∀ e ∈ g₁.elements, isElementPath e.path = true :=
      Cache.formed_of_hydrate hydrated hits empty
    exact formed
  · obtain ⟨-, g₂, g₃, missing, rebuilds, completed⟩ := notServed
    obtain ⟨rebuilt, -⟩ := rebuilt_of_fillsGraph missing rebuilds completed
    exact fun e member => (valid_of_rebuilt rebuilt member).path

end Graph

end ModelForge
