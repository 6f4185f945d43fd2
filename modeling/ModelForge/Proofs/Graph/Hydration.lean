import ModelForge.Proofs.Graph.Fallback

/-! # What comes of hydrating

Whatever stands at the path of a cache, hydrating comes to one of eight ends
(`ModelForge.Cache.HydrateFinds`): the file is missing or cannot be read, it holds no snapshot, the
snapshot is of another version, the fingerprints are not known or not the same, a path is repeated,
or the graph is filled. From the ends follow the hits, what is known about a miss, and what the
graph holds (`ModelForge.Cache.Outcome`, `ModelForge.Cache.hydrate_outcome`). Only a path with a
null character, at which nothing can stand, makes hydrating fail.
-/

namespace ModelForge

open RepositorySet (SamePrints)

namespace Snapshot

variable {d : Disk} {content : Octets} {s : Snapshot} {set : RepositorySet} {f : Failure}

/-- A snapshot that was read has one fingerprint for each repository. -/
theorem nodup_of_ofOctets (reads : ofOctets content = .valid s) :
    (s.repositories.map Prod.fst).Nodup := by
  unfold ofOctets at reads
  split at reads
  · obtain ⟨entries, closed⟩ := Schema.object_eq_valid reads
    obtain ⟨_, elements, readFront, -, rfl⟩ :=
      Checked.seq_eq_valid.mp (Schema.eq_valid_of_closed closed)
    obtain ⟨_, repositories, readVersion, readRepositories, rfl⟩ :=
      Checked.seq_eq_valid.mp readFront
    obtain ⟨version, -, rfl⟩ := Checked.map_eq_valid.mp readVersion
    obtain ⟨v, read⟩ := Schema.required_eq_valid readRepositories
    exact Schema.nodup_of_map read
  · cases reads

/-- A snapshot of the supported version with the fingerprints that repositories have now. -/
structure Current (d : Disk) (set : RepositorySet) (s : Snapshot) : Prop where
  version : s.version = currentVersion
  prints : ∃ current, set.fingerprints d = .ok current ∧ SamePrints s.repositories current

/-- The paths of the elements are distinct. -/
def Distinct (s : Snapshot) : Prop := (s.elements.map Element.path).Nodup

/-- The elements in front of the first one whose path stands among theirs. -/
def FirstRepeated (s : Snapshot) (before : List Element) (e : Element) : Prop :=
  ∃ after, s.elements = before ++ e :: after ∧ (before.map Element.path).Nodup ∧
    e.path ∈ before.map Element.path

/-- A snapshot with a repeated path is not one of distinct paths. -/
theorem FirstRepeated.not_distinct {before : List Element} {e : Element}
    (first : s.FirstRepeated before e) : ¬ s.Distinct := by
  obtain ⟨after, split, -, again⟩ := first
  unfold Distinct
  rw [split, List.map_append, List.map_cons]
  exact fun distinct => (List.nodup_append.mp distinct).2.2 _ again _ List.mem_cons_self rfl

theorem Current.ne_error (current : s.Current d set) : set.fingerprints d ≠ .error f := by
  obtain ⟨_, known, -⟩ := current.prints
  rw [known]
  exact nofun

/-- The fingerprints of a current snapshot are those of now. -/
theorem Current.same (current : s.Current d set) {prints : List (String × String)}
    (known : set.fingerprints d = .ok prints) : SamePrints s.repositories prints := by
  obtain ⟨_, known', same⟩ := current.prints
  cases known.symm.trans known'
  exact same

end Snapshot

namespace Cache

open Snapshot (ofOctets)

variable {d : Disk} {path : Path} {set : RepositorySet} {g g' : Graph} {s s' : Snapshot}
  {content : Octets} {miss : Option CacheMiss} {added : List Element} {fault : Files.Fault}

/-- The file at a path holds a snapshot. -/
def HoldsSnapshot (d : Disk) (path : Path) (s : Snapshot) : Prop :=
  ∃ content, d.read path = .ok content ∧ ofOctets content = .valid s

/-- A path holds one snapshot at most. -/
theorem HoldsSnapshot.eq (holds : HoldsSnapshot d path s) (holds' : HoldsSnapshot d path s') :
    s = s' := by
  obtain ⟨content, read, reads⟩ := holds
  obtain ⟨content', read', reads'⟩ := holds'
  cases read.symm.trans read'
  cases reads.symm.trans reads'
  rfl

/-- A snapshot is held by a file that can be read. -/
theorem HoldsSnapshot.ne_error (holds : HoldsSnapshot d path s) : d.read path ≠ .error fault := by
  obtain ⟨content, read, -⟩ := holds
  rw [read]
  exact nofun

/-- The content of a file that holds a snapshot is valid. -/
theorem HoldsSnapshot.ne_invalid (holds : HoldsSnapshot d path s) (read : d.read path = .ok content)
    {vs : List Violation} : ofOctets content ≠ .invalid vs := by
  obtain ⟨content', read', reads⟩ := holds
  cases read.symm.trans read'
  rw [reads]
  exact nofun

/-- What is found at the path of a cache: what is known about a miss, and the elements that are
added. -/
inductive HydrateFinds (d : Disk) (path : Path) (set : RepositorySet) :
    Option CacheMiss → List Element → Prop
  | missing {p : String} {target : Option String}
      (read : d.read path = .error (.failed .notFound p target)) :
      HydrateFinds d path set (some (.notFound path)) []
  | unreadable {reason : Files.Reason} {p : String} {target : Option String}
      (read : d.read path = .error (.failed reason p target)) (other : reason ≠ .notFound) :
      HydrateFinds d path set (some (.unreadable (.failed reason p target))) []
  | invalid {content : Octets} {vs : List Violation} (read : d.read path = .ok content)
      (refused : ofOctets content = .invalid vs) :
      HydrateFinds d path set (some (.notLoaded (.violations "GraphSnapshot" vs))) []
  | unsupported {s : Snapshot} (holds : HoldsSnapshot d path s)
      (other : s.version ≠ Snapshot.currentVersion) :
      HydrateFinds d path set (some (.unsupported s.version)) []
  | unknown {s : Snapshot} {f : Failure} (holds : HoldsSnapshot d path s)
      (version : s.version = Snapshot.currentVersion) (failed : set.fingerprints d = .error f) :
      HydrateFinds d path set (some (.notLoaded f)) []
  | stale {s : Snapshot} {current : List (String × String)} (holds : HoldsSnapshot d path s)
      (version : s.version = Snapshot.currentVersion) (known : set.fingerprints d = .ok current)
      (differ : ¬ SamePrints s.repositories current) : HydrateFinds d path set (some .stale) []
  | repeated {s : Snapshot} {before : List Element} {e : Element} (holds : HoldsSnapshot d path s)
      (current : s.Current d set) (first : s.FirstRepeated before e) :
      HydrateFinds d path set (some (.notLoaded (.duplicateElement e.path))) before
  | filled {s : Snapshot} (holds : HoldsSnapshot d path s) (current : s.Current d set)
      (distinct : s.Distinct) : HydrateFinds d path set Option.none s.elements

/-- What is raised, and caught again, while a cache is tried: the file is there and cannot be read,
it holds no snapshot, the fingerprints cannot be computed, or a path is repeated. -/
inductive RaisesWithin (d : Disk) (path : Path) (set : RepositorySet) : Prop
  | unreadable {reason : Files.Reason} {p : String} {target : Option String}
      (read : d.read path = .error (.failed reason p target)) (other : reason ≠ .notFound)
  | invalid {content : Octets} {vs : List Violation} (read : d.read path = .ok content)
      (refused : ofOctets content = .invalid vs)
  | unknown {s : Snapshot} {f : Failure} (holds : HoldsSnapshot d path s)
      (version : s.version = Snapshot.currentVersion) (failed : set.fingerprints d = .error f)
  | repeated {s : Snapshot} (holds : HoldsSnapshot d path s) (current : s.Current d set)
      (twice : ¬ s.Distinct)

/-- With a snapshot in the file, only its fingerprints and its paths can be at fault. -/
theorem RaisesWithin.of_holds (raises : RaisesWithin d path set) (holds : HoldsSnapshot d path s) :
    (s.version = Snapshot.currentVersion ∧ ∃ f, set.fingerprints d = .error f) ∨
      s.Current d set ∧ ¬ s.Distinct := by
  cases raises with
  | unreadable read other => exact absurd read holds.ne_error
  | invalid read refused => exact absurd refused (holds.ne_invalid read)
  | unknown holds' version failed =>
    cases holds.eq holds'
    exact .inl ⟨version, _, failed⟩
  | repeated holds' current twice =>
    cases holds.eq holds'
    exact .inr ⟨current, twice⟩

namespace HydrateFinds

/-- A current snapshot fills the graph, up to the first path that is repeated. -/
theorem of_current (finds : HydrateFinds d path set miss added) (holds : HoldsSnapshot d path s)
    (current : s.Current d set) :
    (miss = Option.none ∧ s.Distinct ∧ added = s.elements) ∨
      ∃ e, miss = some (.notLoaded (.duplicateElement e.path)) ∧ s.FirstRepeated added e := by
  cases finds with
  | missing read => exact absurd read holds.ne_error
  | unreadable read other => exact absurd read holds.ne_error
  | invalid read refused => exact absurd refused (holds.ne_invalid read)
  | unsupported holds' other =>
    cases holds.eq holds'
    exact absurd current.version other
  | unknown holds' version failed => exact absurd failed current.ne_error
  | stale holds' version known differ =>
    cases holds.eq holds'
    exact absurd (current.same known) differ
  | repeated holds' current' first =>
    cases holds.eq holds'
    exact .inr ⟨_, rfl, first⟩
  | filled holds' current' distinct =>
    cases holds.eq holds'
    exact .inl ⟨rfl, distinct, rfl⟩

/-- A graph is filled exactly from a snapshot that is current and repeats no path. -/
theorem eq_none_iff (finds : HydrateFinds d path set miss added) :
    miss = Option.none ↔ ∃ s, HoldsSnapshot d path s ∧ s.Current d set ∧ s.Distinct := by
  constructor
  · rintro rfl
    cases finds with
    | filled holds current distinct => exact ⟨_, holds, current, distinct⟩
  · rintro ⟨s, holds, current, distinct⟩
    rcases finds.of_current holds current with ⟨none, -, -⟩ | ⟨e, -, first⟩
    · exact none
    · exact absurd distinct first.not_distinct

/-- Every miss comes with a reason. -/
theorem exists_reason {why : CacheMiss} (finds : HydrateFinds d path set (some why) added) :
    ∃ text, why.reason = some text := by
  cases finds <;> exact ⟨_, rfl⟩

/-- A trace is kept exactly of what is raised. -/
theorem trace_iff {why : CacheMiss} (finds : HydrateFinds d path set (some why) added) :
    why.trace.isSome = true ↔ RaisesWithin d path set := by
  constructor
  · intro traced
    cases finds with
    | missing read => cases traced
    | unreadable read other => exact .unreadable read other
    | invalid read refused => exact .invalid read refused
    | unsupported holds other => cases traced
    | unknown holds version failed => exact .unknown holds version failed
    | stale holds version known differ => cases traced
    | repeated holds current first => exact .repeated holds current first.not_distinct
  · intro raises
    -- a trace is there but for a missing file, another version and a stale snapshot
    cases finds with
    | missing read =>
      cases raises with
      | unreadable read' other =>
        cases read.symm.trans read'
        exact absurd rfl other
      | invalid read' refused => cases read.symm.trans read'
      | unknown holds version failed => exact absurd read holds.ne_error
      | repeated holds current twice => exact absurd read holds.ne_error
    | unsupported holds other =>
      rcases raises.of_holds holds with ⟨version, -⟩ | ⟨current, -⟩
      · exact absurd version other
      · exact absurd current.version other
    | stale holds version known differ =>
      rcases raises.of_holds holds with ⟨-, f, failed⟩ | ⟨current, -⟩
      · cases known.symm.trans failed
      · exact absurd (current.same known) differ
    | unreadable read other => rfl
    | invalid read refused => rfl
    | unknown holds version failed => rfl
    | repeated holds current first => rfl

/-- Nothing is added for a snapshot that is not current. -/
theorem eq_nil {why : CacheMiss} (finds : HydrateFinds d path set (some why) added)
    (other : ∀ s, HoldsSnapshot d path s → ¬ s.Current d set) : added = [] := by
  cases finds with
  | repeated holds current first => exact absurd current (other _ holds)
  | _ => rfl

end HydrateFinds

/-! ## Hydrating -/

/-- From a current snapshot elements are added up to a repeated path. -/
theorem hydrateFinds_of_addAll {failed : Option Failure} (loading : g.state.isLoading = true)
    (empty : g.elements = []) (holds : HoldsSnapshot d path s)
    (current : s.Current d g.repositories) (all : addAll g s.elements = (failed, g')) :
    ∃ added, HydrateFinds d path g.repositories (failed.map .notLoaded) added ∧
      Graph.GrownBy g added g' := by
  cases failed with
  | none =>
    obtain ⟨distinct, grows⟩ := Graph.grownBy_of_addAll all
    rw [empty, List.append_nil] at distinct
    exact ⟨s.elements, .filled holds current distinct, grows⟩
  | some f =>
    obtain ⟨before, e, after, split, rfl, distinct, again, grows⟩ :=
      Graph.grownBy_of_addAll_refused loading all
    rw [empty, List.append_nil] at distinct again
    exact ⟨before, .repeated holds current ⟨after, split, distinct, again⟩, grows⟩

/-- Loading a snapshot ends as what is found at its path says. -/
theorem hydrateFinds_of_load (loading : g.state.isLoading = true) (empty : g.elements = [])
    (read : d.read path = .ok content) (loaded : load d content g = (miss, g')) :
    ∃ added, HydrateFinds d path g.repositories miss added ∧ Graph.GrownBy g added g' := by
  unfold load at loaded
  cases reads : ofOctets content with
  | invalid vs =>
    rw [reads] at loaded
    cases loaded
    exact ⟨[], .invalid read reads, .refl g⟩
  | valid s =>
    have holds : HoldsSnapshot d path s := ⟨content, read, reads⟩
    rw [reads] at loaded
    dsimp only at loaded
    split at loaded
    · next other =>
      cases loaded
      exact ⟨[], .unsupported holds other, .refl g⟩
    next supported =>
    have version : s.version = Snapshot.currentVersion := not_not.mp supported
    cases known : g.repositories.fingerprints d with
    | error f =>
      rw [known] at loaded
      cases loaded
      exact ⟨[], .unknown holds version known, .refl g⟩
    | ok prints =>
      rw [known] at loaded
      dsimp only at loaded
      have same := Snapshot.sameMap_iff (Snapshot.nodup_of_ofOctets reads)
        (RepositorySet.nodup_fingerprints known)
      split at loaded
      · next differ =>
        cases loaded
        refine ⟨[], .stale holds version known fun equal => ?_, .refl g⟩
        rw [same.mpr equal] at differ
        cases differ
      next equal =>
      have current : s.Current d g.repositories := by
        refine ⟨version, prints, known, same.mp ?_⟩
        simpa using equal
      rcases all : addAll g s.elements with ⟨failed, g₁⟩
      rw [all] at loaded
      obtain ⟨added, finds, grows⟩ := hydrateFinds_of_addAll loading empty holds current all
      cases failed with
      | none =>
        cases loaded
        exact ⟨added, finds, grows⟩
      | some f =>
        cases loaded
        exact ⟨added, finds, grows⟩

/-- Hydrating ends as what is found at the path says. -/
theorem exists_hydrateFinds (loading : g.state.isLoading = true) (empty : g.elements = [])
    (proper : Disk.hasNull path = false) :
    ∃ miss added g', hydrate d (.file path) g = .ok (miss.isNone, miss, g') ∧
      HydrateFinds d path g.repositories miss added ∧ Graph.GrownBy g added g' := by
  unfold hydrate
  dsimp only
  rcases read : d.read path with fault | content
  · cases fault with
    | nullCharacter => exact absurd read (Disk.read_ne_nullCharacter proper)
    | failed reason p target =>
      cases reason with
      | notFound => exact ⟨_, [], g, rfl, .missing read, .refl g⟩
      | _ => exact ⟨_, [], g, rfl, .unreadable read nofun, .refl g⟩
  · rcases loaded : load d content g with ⟨miss, g'⟩
    obtain ⟨added, finds, grows⟩ := hydrateFinds_of_load loading empty read loaded
    cases miss with
    | none => exact ⟨_, added, g', by dsimp only; rw [loaded]; rfl, finds, grows⟩
    | some why => exact ⟨_, added, g', by dsimp only; rw [loaded]; rfl, finds, grows⟩

/-- What comes of a cache file for an empty graph: when it hits, what is known about a miss, and
what the graph then holds. -/
structure Outcome (d : Disk) (path : Path) (g : Graph) (hit : Bool) (miss : Option CacheMiss)
    (g' : Graph) : Prop where
  hits : hit = true ↔ ∃ s, HoldsSnapshot d path s ∧ s.Current d g.repositories ∧ s.Distinct
  served : hit = true →
    miss = Option.none ∧ ∀ s, HoldsSnapshot d path s → g'.elements.Perm s.elements
  missed : hit = false → ∃ why text, miss = some why ∧ why.reason = some text ∧
    (why.trace.isSome = true ↔ RaisesWithin d path g.repositories)
  repeated : hit = false → ∀ s, HoldsSnapshot d path s → s.Current d g.repositories →
    ∃ before e, s.FirstRepeated before e ∧ g'.elements.Perm before
  empty : hit = false →
    (∀ s, HoldsSnapshot d path s → ¬ s.Current d g.repositories) → g'.elements = []
  kept : g'.repositories = g.repositories ∧ g'.state = g.state ∧ g'.history = g.history

/-- What hydrating finds settles what comes of it. -/
theorem outcome_of_hydrateFinds (empty : g.elements = [])
    (finds : HydrateFinds d path g.repositories miss added) (grows : Graph.GrownBy g added g') :
    Outcome d path g miss.isNone miss g' := by
  have holding : g'.elements.Perm added := by
    have all := grows.elements
    rwa [empty, List.append_nil] at all
  have kept := And.intro grows.repositories (And.intro grows.state grows.history)
  have none_iff := finds.eq_none_iff
  cases miss with
  | none =>
    refine ⟨⟨fun _ => none_iff.mp rfl, fun _ => rfl⟩, fun _ => ⟨rfl, fun s holds => ?_⟩, nofun,
      nofun, nofun, kept⟩
    obtain ⟨s', holds', current, -⟩ := none_iff.mp rfl
    cases holds.eq holds'
    rcases finds.of_current holds current with ⟨-, -, rfl⟩ | ⟨_, no, -⟩
    · exact holding
    · cases no
  | some why =>
    refine ⟨⟨nofun, fun fits => nomatch none_iff.mpr fits⟩, nofun, fun _ => ?_,
      fun _ s holds current => ?_, fun _ other => ?_, kept⟩
    · obtain ⟨text, reason⟩ := finds.exists_reason
      exact ⟨why, text, rfl, reason, finds.trace_iff⟩
    · rcases finds.of_current holds current with ⟨no, -, -⟩ | ⟨e, -, first⟩
      · cases no
      · exact ⟨added, e, first, holding⟩
    · rw [finds.eq_nil other] at holding
      exact holding.eq_nil

/-- Hydrating an empty graph fails for a path with a null character, and for no other one: whatever
stands there, it comes to an outcome. -/
theorem hydrate_outcome (d : Disk) (path : Path) (new : g.state = .notLoaded)
    (empty : g.elements = []) :
    (Disk.hasNull path = true → hydrate d (.file path) g = .error (.file .nullCharacter)) ∧
    (Disk.hasNull path = false → ∃ hit miss g', hydrate d (.file path) g = .ok (hit, miss, g') ∧
      Outcome d path g hit miss g') := by
  refine ⟨fun null => Preparation.hydrate_of_hasNull null d g, fun proper => ?_⟩
  · have loading : g.state.isLoading = true := by rw [new]; rfl
    obtain ⟨miss, added, g', hydrated, finds, grows⟩ := exists_hydrateFinds loading empty proper
    exact ⟨_, miss, g', hydrated, outcome_of_hydrateFinds empty finds grows⟩

/-- A path with a null character makes hydrating fail. From a snapshot with each element twice, all
elements are added before the miss. -/
theorem hydrate_samples :
    hydrate Sample.doubled (.file (.ofParts ["c\x00"])) (Graph.new Sample.repositories) =
      .error (.file .nullCharacter) ∧
    ∃ why g, hydrate Sample.doubled (.file Sample.snapshotPath) (Graph.new Sample.repositories) =
        .ok (false, some why, g) ∧
      Outcome Sample.doubled Sample.snapshotPath (Graph.new Sample.repositories) false (some why)
        g ∧
      g.elements = Sample.elements := by
  have new : (Graph.new Sample.repositories).state = .notLoaded := rfl
  refine ⟨(hydrate_outcome _ _ new rfl).1 (by decide), ?_⟩
  obtain ⟨hit, miss, g, hydrated, outcome⟩ :=
    (hydrate_outcome Sample.doubled Sample.snapshotPath new rfl).2 (by decide)
  obtain ⟨miss', g', missed, elements⟩ := Sample.exists_hydrate_doubled
  cases hydrated.symm.trans missed
  obtain ⟨why, text, rfl, -, -⟩ := outcome.missed rfl
  exact ⟨why, g, missed, outcome, elements⟩

end Cache

end ModelForge
