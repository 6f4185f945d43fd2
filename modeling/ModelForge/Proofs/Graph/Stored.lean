import ModelForge.Graph.Store
import ModelForge.Proofs.Graph.Unchanged
import ModelForge.Proofs.Run

/-! # Stored graphs

Storing a rebuilt graph leaves its snapshot, with the fingerprints of its repositories, at the path
(`ModelForge.Cache.exists_stored`). From there a graph is filled exactly where the fingerprints are
the same, and then it holds all that was stored (`ModelForge.Cache.hydrate_stored`).
-/

namespace ModelForge

namespace Cache

variable {d : Disk} {g : Graph} {w w' : World} {path : Path} {text : String}

/-- The snapshot of a graph with the fingerprints of its repositories. -/
def snapshotOf (current : List (String × String)) (g : Graph) : Snapshot :=
  ⟨Snapshot.currentVersion, current, g.elements⟩

/-- The text of a snapshot holds the elements of the graph and the fingerprints of the moment. -/
theorem textOf_eq_ok : textOf d g = .ok text ↔ g.isReady = true ∧
    ∃ current, g.repositories.fingerprints d = .ok current ∧
      (snapshotOf current g).text = text := by
  unfold textOf
  cases g.isReady with
  | false => exact ⟨fun no => (nomatch no), fun no => (nomatch no.1)⟩
  | true =>
    rw [Snapshot.ofGraph]
    cases g.repositories.fingerprints d with
    | error f => exact ⟨fun no => (nomatch no), fun ⟨_, _, no, _⟩ => (nomatch no)⟩
    | ok current =>
      constructor
      · intro made
        cases made
        exact ⟨rfl, current, rfl, rfl⟩
      · rintro ⟨-, _, same, rfl⟩
        cases same
        rfl

/-- A graph is stored in two steps: the text of its snapshot is made, and then put in place. -/
theorem store_eq_ok : Run.perform (store g path) w = (.ok (), w') ↔
    ∃ text d, textOf w.disk g = .ok text ∧
      (Files.Action.replaceFile path (Utf8.encode text)).run.run w.disk = (.ok (), d) ∧
      w' = { w with disk := d } := by
  unfold Run.perform store
  rw [Step.run_bind_of_ok (Step.run_get w)]
  cases made : textOf w.disk g with
  | error f => exact ⟨fun no => (nomatch no), fun ⟨_, _, no, _⟩ => (nomatch no)⟩
  | ok text =>
    rw [Step.run_bind_of_ok (Run.run_orThrow _ w)]
    refine Run.perform_files_eq_ok.trans ⟨fun ⟨d, rest⟩ => ⟨text, d, rfl, rest⟩, ?_⟩
    rintro ⟨_, d, same, rest⟩
    cases same
    exact ⟨d, rest⟩

/-- Storing fails before anything is done, or where the text is put in place. -/
theorem store_eq_error {f : Failure} : Run.perform (store g path) w = (.error f, w') ↔
    (textOf w.disk g = .error f ∧ w' = w) ∨ ∃ text fault d, textOf w.disk g = .ok text ∧
      (Files.Action.replaceFile path (Utf8.encode text)).run.run w.disk = (.error fault, d) ∧
      f = .file fault ∧ w' = { w with disk := d } := by
  unfold Run.perform store
  rw [Step.run_bind_of_ok (Step.run_get w)]
  cases made : textOf w.disk g with
  | error f' =>
    have failed : (Run.orThrow (.error f' : Except Failure String)).run.run w = (.error f', w) :=
      Run.run_orThrow _ w
    rw [Step.run_bind_of_error failed]
    constructor
    · intro same
      cases same
      exact .inl ⟨rfl, rfl⟩
    · rintro (⟨same, rfl⟩ | ⟨_, _, _, no, _⟩)
      · cases same
        rfl
      · cases no
  | ok text =>
    rw [Step.run_bind_of_ok (Run.run_orThrow _ w)]
    refine Run.perform_files_eq_error.trans ⟨?_, ?_⟩
    · exact fun ⟨fault, d, rest⟩ => .inr ⟨text, fault, d, rfl, rest⟩
    · rintro (⟨no, -⟩ | ⟨_, fault, d, same, rest⟩)
      · cases no
      · cases same
        exact ⟨fault, d, rest⟩

/-- Alike graphs are stored alike. -/
theorem store_of_sameButHistory {g' : Graph} (alike : Graph.SameButHistory g g') (path : Path) :
    store g path = store g' path := by
  rw [alike.eq]
  rfl

/-- What was stored is read back, with the fingerprints at the time of storing. -/
theorem read_of_store (stored : Run.perform (store g path) w = (.ok (), w')) :
    ∃ current, g.repositories.fingerprints w.disk = .ok current ∧
      w'.disk.read path = .ok (Utf8.encode (snapshotOf current g).text) := by
  obtain ⟨text, d, made, replaced, rfl⟩ := store_eq_ok.mp stored
  obtain ⟨-, current, known, rfl⟩ := textOf_eq_ok.mp made
  exact ⟨current, known, Files.Action.read_of_replaceFile replaced⟩

end Cache

namespace Graph

variable {d : Disk} {g g' : Graph} {s : RepositorySet}

/-- The elements of a graph can be added to an unloaded one, which then holds the same. -/
theorem addAll_new (s : RepositorySet) (g : Graph) :
    ∃ g', Cache.addAll (Graph.new s) g.elements = (none, g') ∧ g'.repositories = s ∧
      g'.state = .notLoaded ∧ g'.elements = g.elements := by
  have distinct : ((g.elements ++ (Graph.new s).elements).map Element.path).Nodup := by
    change ((g.elements ++ []).map Element.path).Nodup
    rw [List.append_nil]
    exact nodup_paths g
  obtain ⟨g', added, grows⟩ := addAll_of_distinct (g := Graph.new s) rfl distinct
  refine ⟨g', added, grows.repositories, grows.state, elements_eq_of_perm ?_⟩
  have all := grows.elements
  change g'.elements.Perm (g.elements ++ []) at all
  rwa [List.append_nil] at all

end Graph

namespace Cache

open RepositorySet (SamePrints)

variable {d d₁ : Disk} {g g' : Graph} {w w' : World} {path : Path} {s s' : RepositorySet}
  {current : List (String × String)}

/-- A stored graph is served exactly where the fingerprints are the same, and then whole. -/
theorem hydrate_stored (valid : ∀ e ∈ g.elements, e.Valid) (distinct : (current.map Prod.fst).Nodup)
    (read : d.read path = .ok (Utf8.encode (snapshotOf current g).text)) (s' : RepositorySet) :
    (∃ hit miss g', hydrate d (.file path) (Graph.new s') = .ok (hit, miss, g')) ∧
      (∀ miss g', hydrate d (.file path) (Graph.new s') = .ok (true, miss, g') →
        miss = Option.none ∧ g'.repositories = s' ∧ g'.state = .notLoaded ∧
          g'.elements = g.elements) ∧
      ((∃ miss g', hydrate d (.file path) (Graph.new s') = .ok (true, miss, g')) ↔
        ∃ current', s'.fingerprints d = .ok current' ∧ SamePrints current current') := by
  obtain ⟨g₁, added, repositories, state, elements⟩ := Graph.addAll_new s' g
  have storable : (snapshotOf current g).Storable := ⟨rfl, distinct, valid⟩
  obtain ⟨total, served⟩ := hydrate_of_read (g := Graph.new s') read
  refine ⟨total, fun miss g' hydrated => ?_, ?_⟩
  · obtain ⟨rfl, loaded⟩ := (served miss g').mp hydrated
    obtain ⟨current', -, -, filled⟩ := (load_eq_none storable).mp loaded
    cases added.symm.trans filled
    exact ⟨rfl, repositories, state, elements⟩
  · constructor
    · rintro ⟨miss, g', hydrated⟩
      obtain ⟨-, loaded⟩ := (served miss g').mp hydrated
      obtain ⟨current', known, same, -⟩ := (load_eq_none storable).mp loaded
      exact ⟨current', known,
        (Snapshot.sameMap_iff distinct (RepositorySet.nodup_fingerprints known)).mp same⟩
    · rintro ⟨current', known, same⟩
      refine ⟨Option.none, g₁, (served _ _).mpr ⟨rfl, (load_eq_none storable).mpr
        ⟨current', known, ?_, added⟩⟩⟩
      exact (Snapshot.sameMap_iff distinct (RepositorySet.nodup_fingerprints known)).mpr same

/-- What a rebuild stored, as it is found later. -/
theorem exists_stored [SetOrder] (rebuilt : Graph.Rebuilt d₁ s g)
    (stored : Run.perform (store g path) w = (.ok (), w'))
    (unchanged : ∀ r ∈ s.members, r.tree w.disk = r.tree d₁)
    (kept : d.read path = w'.disk.read path) :
    ∃ current, s.fingerprints d₁ = .ok current ∧
      d.read path = .ok (Utf8.encode (snapshotOf current g).text) := by
  obtain ⟨current, known, read⟩ := read_of_store stored
  rw [rebuilt.repositories] at known
  refine ⟨current, ?_, kept.trans read⟩
  rw [RepositorySet.fingerprints_eq_of_tree (fun r member => (unchanged r member).symm)
    rebuilt.wellFormed.readable, known]

end Cache

end ModelForge
