import ModelForge.Proofs.Document.Json
import ModelForge.Proofs.Graph.Elements
import ModelForge.Proofs.Graph.Preparation

/-! # Snapshots are read back

A snapshot of valid elements is read back from its text (`ModelForge.Snapshot.ofOctets_text`). A
graph is filled from it exactly when the fingerprints are those of its repositories
(`ModelForge.Cache.load_eq_none`), and then holds the elements of the snapshot.
-/

namespace ModelForge

namespace Snapshot

open Json Schema

variable {s : Snapshot} {e : Element}

/-- A snapshot that can be stored: of the current version, with each repository once and valid
elements. -/
structure Storable (s : Snapshot) : Prop where
  version : s.version = currentVersion
  distinct : (s.repositories.map Prod.fst).Nodup
  valid : ∀ e ∈ s.elements, e.Valid

theorem readable_texts {n : Nat} (ss : List String) : ReadableValue (n + 1) (.texts ss) := by
  refine .list fun v member => ?_
  obtain ⟨s, -, rfl⟩ := List.mem_map.mp member
  exact .text

/-- Properties are written as values that are read back. -/
theorem readable_propertyValue {n : Nat} (p : Property) :
    ReadableValue (n + 1) (Source.propertyValue p) := by
  refine .object fun m member => ?_
  simp only [List.mem_cons, List.not_mem_nil, or_false] at member
  rcases member with rfl | rfl | rfl <;> exact .text

/-- An element as a value has three levels. -/
theorem readable_element {n : Nat} (e : Element) : ReadableValue (n + 3) e.toValue := by
  unfold Element.toValue
  cases e.body with
  | classBody supertypes properties =>
    refine .object fun m member => ?_
    simp only [List.cons_append, List.nil_append, List.mem_cons, List.not_mem_nil, or_false]
      at member
    rcases member with rfl | rfl | rfl | rfl | rfl | rfl | rfl
    · exact .text
    · exact .text
    · exact .text
    · exact readable_texts _
    · exact .text
    · exact readable_texts _
    · refine .list fun v inside => ?_
      obtain ⟨p, -, rfl⟩ := List.mem_map.mp inside
      exact readable_propertyValue p
  | enumerationBody values =>
    refine .object fun m member => ?_
    simp only [List.cons_append, List.nil_append, List.mem_cons, List.not_mem_nil, or_false]
      at member
    rcases member with rfl | rfl | rfl | rfl | rfl | rfl
    · exact .text
    · exact .text
    · exact .text
    · exact readable_texts _
    · exact .text
    · exact readable_texts _

/-- A snapshot as a value has five levels. -/
theorem readable_toValue (version : s.version = currentVersion) : ReadableValue 5 s.toValue := by
  refine .object fun m member => ?_
  simp only [List.mem_cons, List.not_mem_nil, or_false] at member
  rcases member with rfl | rfl | rfl
  · rw [version]
    exact .natural (k := 1) (by decide)
  · refine .object fun m inside => ?_
    obtain ⟨r, -, rfl⟩ := List.mem_map.mp inside
    exact .text
  · refine .list fun v inside => ?_
    obtain ⟨e, -, rfl⟩ := List.mem_map.mp inside
    exact readable_element e

/-- The rules of a snapshot accept the value of a snapshot. -/
theorem check_toValue (storable : Storable s) : check s.toValue = .valid s := by
  have version : (1 : Int) ≤ s.version := by rw [storable.version]; decide
  have repositories : map Schema.text (.object (s.repositories.map fun r => (r.1, .text r.2))) =
      .valid s.repositories := map_of_each storable.distinct fun _ _ => rfl
  have elements : list Element.check (.list (s.elements.map Element.toValue)) =
      .valid s.elements :=
    list_of_each fun e member => Element.check_toValue (storable.valid e member)
  unfold check toValue
  rw [object_eq]
  dsimp only [Schema.object]
  rw [closed_object (by simp), required_of_lookup (by simp) (integer_of_le version),
    required_of_lookup (by simp) repositories, member_of_lookup _ (by simp) elements]
  rfl

/-- A snapshot is read back from its text. -/
theorem ofOctets_text (storable : Storable s) : ofOctets (Utf8.encode s.text) = .valid s := by
  unfold ofOctets text
  rw [parse?_print (readable_toValue storable.version) (by decide)]
  exact check_toValue storable

/-! ## Fingerprints -/

/-- Under distinct names a value is found exactly if it is there. -/
theorem lookup_eq_some_iff {named : List (String × String)}
    (distinct : (named.map Prod.fst).Nodup) {name value : String} :
    named.lookup name = some value ↔ (name, value) ∈ named := by
  induction named with
  | nil => exact ⟨fun no => (nomatch no), fun no => (nomatch no)⟩
  | cons first named ih =>
    obtain ⟨other, v⟩ := first
    rw [List.map_cons, List.nodup_cons] at distinct
    rw [List.lookup_cons, List.mem_cons]
    by_cases same : name = other
    · subst same
      simp only [beq_self_eq_true, Option.some.injEq, Prod.mk.injEq, true_and]
      refine ⟨fun here => .inl here.symm, fun there => ?_⟩
      rcases there with here | behind
      · exact here.symm
      · exact absurd (List.mem_map.mpr ⟨_, behind, rfl⟩) distinct.1
    · simp only [beq_eq_false_iff_ne.mpr same, ih distinct.2, Prod.mk.injEq, same, false_and,
        false_or]

/-- Two lists with distinct names give the same texts to the same names exactly when they hold the
same pairs. -/
theorem sameMap_iff {a b : List (String × String)} (distinct : (a.map Prod.fst).Nodup)
    (distinct' : (b.map Prod.fst).Nodup) :
    sameMap a b = true ↔ ∀ name value, (name, value) ∈ a ↔ (name, value) ∈ b := by
  unfold sameMap
  simp only [Bool.and_eq_true, List.all_eq_true, beq_iff_eq, Prod.forall]
  simp only [lookup_eq_some_iff distinct, lookup_eq_some_iff distinct']
  exact ⟨fun ⟨there, back⟩ name value => ⟨there name value, back name value⟩,
    fun same => ⟨fun name value => (same name value).mp, fun name value => (same name value).mpr⟩⟩

end Snapshot

namespace RepositorySet

variable {d d' : Disk} {s s' : RepositorySet} {current current' : List (String × String)}

/-- The fingerprints of a set are those of its members, each under its name. -/
theorem fingerprints_eq_ok : s.fingerprints d = .ok current ↔
    List.Forall₂ (fun (r : Repository) f => f.1 = r.name ∧ r.fingerprint d = .ok f.2) s.members
      current := by
  unfold fingerprints
  rw [Result.mapM_eq_ok]
  have each (r : Repository) (f : String × String) :
      (do return (r.name, ← r.fingerprint d) : Except Failure (String × String)) = .ok f ↔
        f.1 = r.name ∧ r.fingerprint d = .ok f.2 := by
    cases r.fingerprint d with
    | error g =>
      refine ⟨fun no => (nomatch no), fun ⟨_, no⟩ => (nomatch no)⟩
    | ok print =>
      constructor
      · intro same
        cases same
        exact ⟨rfl, rfl⟩
      · rintro ⟨name, same⟩
        cases same
        rw [← name]
        rfl
  simp only [each]

/-- There is one fingerprint for each member. -/
theorem names_of_fingerprints (known : s.fingerprints d = .ok current) :
    current.map Prod.fst = s.names := by
  have pairs := fingerprints_eq_ok.mp known
  unfold names
  generalize s.members = members at pairs ⊢
  clear known
  induction pairs with
  | nil => rfl
  | cons first _ ih => rw [List.map_cons, List.map_cons, first.1, ih]

theorem nodup_names (s : RepositorySet) : s.names.Nodup := Keyed.nodup_keys s.ascending

/-- Fingerprints stand under distinct names. -/
theorem nodup_fingerprints (known : s.fingerprints d = .ok current) :
    (current.map Prod.fst).Nodup := by
  rw [names_of_fingerprints known]
  exact nodup_names s

/-- Each is the fingerprint of the member it is named after. -/
theorem mem_fingerprints (known : s.fingerprints d = .ok current) {name print : String} :
    (name, print) ∈ current ↔ ∃ r ∈ s.members, r.name = name ∧ r.fingerprint d = .ok print := by
  have pairs := fingerprints_eq_ok.mp known
  generalize s.members = members at pairs ⊢
  clear known
  induction pairs with
  | nil => exact ⟨fun no => (nomatch no), fun ⟨_, no, _⟩ => (nomatch no)⟩
  | @cons r f members current first _ ih =>
    refine List.mem_cons.trans ((or_congr_right ih).trans ?_)
    constructor
    · rintro (rfl | ⟨q, member, rest⟩)
      · exact ⟨r, List.mem_cons_self, first.1.symm, first.2⟩
      · exact ⟨q, List.mem_cons_of_mem r member, rest⟩
    · rintro ⟨q, member, name, printed⟩
      rcases List.mem_cons.mp member with rfl | behind
      · refine .inl (Prod.ext (name.symm.trans first.1.symm) ?_)
        rw [first.2] at printed
        exact (Except.ok.inj printed).symm
      · exact .inr ⟨q, behind, name, printed⟩

end RepositorySet

namespace Cache

variable {d : Disk} {g g' : Graph} {s : Snapshot} {path : Path} {miss : Option CacheMiss}

/-- A graph is filled from a snapshot exactly when the fingerprints of its repositories are those of
the snapshot and the elements can be added. -/
theorem load_eq_none (storable : s.Storable) :
    load d (Utf8.encode s.text) g = (Option.none, g') ↔
      ∃ current, g.repositories.fingerprints d = .ok current ∧
        Snapshot.sameMap s.repositories current = true ∧
        addAll g s.elements = (Option.none, g') := by
  unfold load
  rw [Snapshot.ofOctets_text storable]
  dsimp only
  rw [if_neg fun differs => differs storable.version]
  cases g.repositories.fingerprints d with
  | error f =>
    constructor
    · intro no
      cases no
    · rintro ⟨current, no, _⟩
      cases no
  | ok current =>
    dsimp only
    simp only [Except.ok.injEq, exists_eq_left']
    cases Snapshot.sameMap s.repositories current with
    | false =>
      constructor
      · intro no
        cases no
      · rintro ⟨no, _⟩
        cases no
    | true =>
      rcases addAll g s.elements with ⟨failed, g₁⟩
      cases failed with
      | none =>
        constructor
        · intro same
          cases same
          exact ⟨rfl, rfl⟩
        · rintro ⟨-, same⟩
          cases same
          rfl
      | some f =>
        constructor
        · intro no
          cases no
        · rintro ⟨-, no⟩
          cases no

/-- A snapshot with the right fingerprints leaves in the graph what was added before the first
element that could not be. -/
theorem hydrate_of_refused {current : List (String × String)} {f : Failure}
    (storable : s.Storable) (read : d.read path = .ok (Utf8.encode s.text))
    (known : g.repositories.fingerprints d = .ok current)
    (same : Snapshot.sameMap s.repositories current = true)
    (refused : addAll g s.elements = (some f, g')) :
    hydrate d (.file path) g = .ok (false, some (.notLoaded f), g') := by
  have loaded : load d (Utf8.encode s.text) g = (some (.notLoaded f), g') := by
    unfold load
    rw [Snapshot.ofOctets_text storable]
    dsimp only
    rw [if_neg fun differs => differs storable.version, known]
    dsimp only
    rw [same, refused]
    rfl
  unfold hydrate
  dsimp only
  rw [read]
  dsimp only
  rw [loaded]

/-- With a stored snapshot a graph is always tried, and served exactly when it can be filled. -/
theorem hydrate_of_read {content : Octets} (read : d.read path = .ok content) :
    (∃ hit miss g', hydrate d (.file path) g = .ok (hit, miss, g')) ∧
      ∀ miss g', hydrate d (.file path) g = .ok (true, miss, g') ↔
        miss = Option.none ∧ load d content g = (Option.none, g') := by
  unfold hydrate
  dsimp only
  rw [read]
  dsimp only
  rcases load d content g with ⟨why, g₁⟩
  cases why with
  | none =>
    refine ⟨⟨true, Option.none, g₁, rfl⟩, fun miss g' => ?_⟩
    constructor
    · intro same
      cases same
      exact ⟨rfl, rfl⟩
    · rintro ⟨rfl, same⟩
      cases same
      rfl
  | some why =>
    refine ⟨⟨false, some why, g₁, rfl⟩, fun miss g' => ?_⟩
    constructor
    · intro no
      cases no
    · rintro ⟨-, no⟩
      cases no

end Cache

end ModelForge
