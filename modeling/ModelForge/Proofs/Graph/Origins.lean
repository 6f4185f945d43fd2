import ModelForge.Proofs.Code.Paths
import ModelForge.Proofs.Graph.Accepted
import ModelForge.Proofs.Graph.Fingerprint

/-! # Where the elements of a graph come from

Every element of a rebuilt graph was declared in a source file, which is kept as its `Origin`: the
repository and the file, what the file reads as, and the declaration. The names of the element are
those of its origin, and generated code can use all of them
(`ModelForge.Element.wellNamed_of_origin`). The source that an element states is told apart from
that of any other file of any repository, as neither repositories nor files have a slash in their
names (`ModelForge.Element.origin_eq_of_source`).
-/

namespace ModelForge

/-! ## Texts that are cut -/

/-- A text is cut where it holds a separator last: into what stands in front of it and behind it. -/
def CutAtLast (sep text front back : String) : Prop :=
  text = front ++ sep ++ back ∧
    ∀ front' back', text = front' ++ sep ++ back' → front'.length ≤ front.length

/-- A separator further back would stand in the name. -/
theorem cutAtLast_qualify {package name : String} (free : ':' ∉ name.toList) :
    CutAtLast "::" (qualify package name) package name := by
  refine ⟨rfl, fun front back same => ?_⟩
  have chars : package.toList ++ ':' :: ':' :: name.toList =
      front.toList ++ ':' :: ':' :: back.toList := by
    have chars := congrArg String.toList same
    unfold qualify at chars
    simp only [String.toList_append, List.append_assoc] at chars
    exact chars
  rw [← String.length_toList, ← String.length_toList]
  rcases List.append_eq_append_iff.mp chars with ⟨more, shape, behind⟩ | ⟨more, shape, -⟩
  · match more with
    | [] => rw [shape, List.append_nil]
    | [_] =>
      obtain ⟨-, tail⟩ := List.cons.inj behind
      exact absurd ((List.cons.inj tail).2 ▸ List.mem_cons_self) free
    | _ :: _ :: rest =>
      obtain ⟨-, tail⟩ := List.cons.inj behind
      exact absurd ((List.cons.inj tail).2 ▸ List.mem_append_right rest List.mem_cons_self) free
  · rw [shape, List.length_append]
    exact Nat.le_add_right _ _

/-- Lists of names without slashes are told apart when joined. -/
theorem Path.joined_injective {names names' : List String} (some_name : names ≠ [])
    (some_name' : names' ≠ []) (flat : ∀ name ∈ names, Flat name)
    (flat' : ∀ name ∈ names', Flat name) (same : joined names = joined names') :
    names = names' := by
  have cut {names : List String} (some_name : names ≠ []) (flat : ∀ name ∈ names, Flat name) :
      Segments.splitOn '/' (joined names).toList = names.map String.toList := by
    unfold joined
    rw [Segments.toList_intercalate]
    refine Segments.splitOn_joinWith_of_free
      (fun none => some_name (List.map_eq_nil_iff.mp none)) fun seg member => ?_
    obtain ⟨name, inside, rfl⟩ := List.mem_map.mp member
    exact flat name inside
  have chars := cut some_name flat
  rw [same, cut some_name' flat'] at chars
  exact (List.map_inj_right fun _ _ => String.toList_inj.mp).mp chars.symm

/-! ## Source files -/

/-- No name on a disk holds a slash. -/
def Disk.FlatNames (d : Disk) : Prop := ∀ x ∈ d.entries, ∀ name ∈ x.1, Flat name

namespace Repository

variable {d : Disk} {r r' : Repository} {files : List Path} {p : Path}

/-- A source file stands below the directory of its repository, under names without slashes. -/
theorem exists_names_of_mem_sources (flat : d.FlatNames) (listed : r.sources d = .ok files)
    (member : p ∈ files) : ∃ names, names ≠ [] ∧ (∀ name ∈ names, Flat name) ∧
      p = r.root.append (.ofParts names) := by
  unfold sources at listed
  obtain ⟨there, -, listed⟩ := Result.bind_eq_ok.mp listed
  split at listed
  · split at listed
    · next l _ =>
      cases listed
      obtain ⟨names, found, rfl⟩ := List.mem_map.mp member
      unfold sourceParts at found
      obtain ⟨⟨own, entry⟩, below, kept⟩ := List.mem_filterMap.mp (List.mem_mergeSort.mp found)
      obtain ⟨last, same⟩ := Option.ite_none_right_eq_some.mp kept
      cases same
      obtain ⟨⟨place, _⟩, known, kept⟩ := List.mem_filterMap.mp below
      obtain ⟨-, same⟩ := Option.ite_none_right_eq_some.mp kept
      cases same
      refine ⟨_, ?_, fun name inside => flat _ known name (List.mem_of_mem_drop inside), rfl⟩
      intro none
      rw [none] at last
      cases last
    · cases listed
      cases member
  · cases listed
    cases member

/-- The id of a source file names its repository and its path below the root. -/
theorem sourceId_eq (r : Repository) {names : List String} (some_name : names ≠ []) :
    r.sourceId (r.root.append (.ofParts names)) = "/" ++ r.name ++ "/" ++ Path.joined names := by
  obtain ⟨first, rest, rfl⟩ := List.exists_cons_of_ne_nil some_name
  unfold sourceId
  rw [textBelow_append]
  exact congrArg _ String.empty_append

/-- The name of a source file is the name of its repository and those that lead to the file. -/
theorem sourceId_append (r : Repository) {names : List String} (some_name : names ≠ []) :
    r.sourceId (r.root.append (.ofParts names)) = Path.joined ("" :: r.name :: names) := by
  rw [sourceId_eq r some_name]
  obtain ⟨first, rest, rfl⟩ := List.exists_cons_of_ne_nil some_name
  unfold Path.joined
  apply String.toList_inj.mp
  simp only [String.toList_append, Segments.toList_intercalate, List.map_cons, Segments.joinWith]
  simp only [List.append_assoc]
  rfl

/-- Source files that are named alike belong to repositories of one name and stand under the same
names. -/
theorem eq_of_sourceId {files' : List Path} {p' : Path} (flat : d.FlatNames) (named : Flat r.name)
    (named' : Flat r'.name) (listed : r.sources d = .ok files) (member : p ∈ files)
    (listed' : r'.sources d = .ok files') (member' : p' ∈ files')
    (same : r.sourceId p = r'.sourceId p') : r.name = r'.name ∧
      ∃ names, p = r.root.append (.ofParts names) ∧ p' = r'.root.append (.ofParts names) := by
  obtain ⟨names, some_name, flats, rfl⟩ := exists_names_of_mem_sources flat listed member
  obtain ⟨names', some_name', flats', rfl⟩ := exists_names_of_mem_sources flat listed' member'
  have empty : Flat "" := by
    unfold Flat
    decide
  rw [sourceId_append r some_name, sourceId_append r' some_name'] at same
  have parts := Path.joined_injective (List.cons_ne_nil _ _) (List.cons_ne_nil _ _)
    (List.forall_mem_cons.mpr ⟨empty, List.forall_mem_cons.mpr ⟨named, flats⟩⟩)
    (List.forall_mem_cons.mpr ⟨empty, List.forall_mem_cons.mpr ⟨named', flats'⟩⟩) same
  obtain ⟨name, rest⟩ := List.cons.inj (List.cons.inj parts).2
  exact ⟨name, names, rfl, by rw [rest]⟩

end Repository

/-! ## Origins -/

/-- An element comes from a declaration in a source file of one of some repositories. -/
structure Origin [SetOrder] (d : Disk) (s : RepositorySet) (e : Element) (r : Repository) (p : Path)
    (source : Source) (declaration : Declaration) : Prop where
  repository : r ∈ s.members
  file : ∃ files, r.sources d = .ok files ∧ p ∈ files
  reads : ∃ content, d.read p = .ok content ∧
    Repository.readSource (r.sourceId p) content = .ok source
  declared : declaration ∈ source.declarations
  made : e = .ofDeclaration source.package r.name (r.sourceId p) declaration

/-- The names of an element are those of its origin, and generated code can use them all. -/
structure WellNamed (e : Element) (r : Repository) (p : Path) (source : Source)
    (declaration : Declaration) : Prop where
  path : CutAtLast "::" e.path source.package declaration.name
  package : e.package = source.package
  name : e.name = declaration.name
  segments : ∀ segment ∈ pathSegments e.path, Source.Usable segment
  body : Source.UsableBody e.body
  repository : e.repository = r.name
  source : ∃ names, names ≠ [] ∧ p = r.root.append (.ofParts names) ∧
    e.source = "/" ++ e.repository ++ "/" ++ Path.joined names

namespace Element

variable {d : Disk} {s : RepositorySet} {e e' : Element} {r r' : Repository} {p p' : Path}
  {source source' : Source} {declaration declaration' : Declaration}

variable [SetOrder]

/-- A source file that is read has been checked. -/
theorem check_of_reads {file : String} {content : Octets}
    (reads : Repository.readSource file content = .ok source) :
    ∃ v, Source.check v = .valid source := by
  unfold Repository.readSource at reads
  split at reads
  · cases reads
  · cases reads
  · next v _ =>
    split at reads
    · next checked =>
      cases reads
      exact ⟨v, checked⟩
    · cases reads

/-- Every declared element comes from a declaration of a source file. -/
theorem exists_origin (member : e ∈ s.declares d) :
    ∃ r p source declaration, Origin d s e r p source declaration := by
  obtain ⟨r, known, declares⟩ := RepositorySet.mem_declares.mp member
  obtain ⟨files, listed, p, inside, es, parsed, made⟩ := Repository.mem_declares.mp declares
  obtain ⟨content, source, read, valid, rfl⟩ := Repository.source_of_parse parsed
  obtain ⟨declaration, declared, rfl⟩ := List.mem_map.mp made
  exact ⟨r, p, source, declaration, known, ⟨files, listed, inside⟩, ⟨content, read, valid⟩,
    declared, rfl⟩

/-- Where an element comes from settles its names. -/
theorem wellNamed_of_origin (flat : d.FlatNames) (origin : Origin d s e r p source declaration) :
    WellNamed e r p source declaration := by
  obtain ⟨-, ⟨files, listed, member⟩, ⟨content, -, reads⟩, declared, rfl⟩ := origin
  obtain ⟨v, checked⟩ := check_of_reads reads
  obtain ⟨package, -⟩ := Source.valid_source checked
  obtain ⟨name, body⟩ := Source.usable_source checked declaration declared
  obtain ⟨names, some_name, -, rfl⟩ := Repository.exists_names_of_mem_sources flat listed member
  refine ⟨cutAtLast_qualify (Identifier.colon_not_mem name.identifier),
    package_ofDeclaration package.formed name.identifier _ _,
    name_ofDeclaration package.formed name.identifier _ _, ?_, body, rfl,
    names, some_name, rfl, ?_⟩
  · rw [pathSegments_ofDeclaration package.formed name.identifier]
    intro segment inside
    rcases List.mem_append.mp inside with front | last
    · exact ⟨Code.isIdentifier_of_segments package.formed front, package.unreserved segment front⟩
    · rwa [List.mem_singleton.mp last]
  · exact Repository.sourceId_eq r some_name

/-- One source id means one repository and one file. -/
theorem origin_eq_of_source (flat : d.FlatNames) (origin : Origin d s e r p source declaration)
    (origin' : Origin d s e' r' p' source' declaration') (same : e.source = e'.source) :
    r = r' ∧ p = p' := by
  obtain ⟨known, ⟨files, listed, member⟩, -, -, rfl⟩ := origin
  obtain ⟨known', ⟨files', listed', member'⟩, -, -, rfl⟩ := origin'
  obtain ⟨name, names, rfl, rfl⟩ := Repository.eq_of_sourceId flat
    (flat_of_isRepositoryName r.legal) (flat_of_isRepositoryName r'.legal) listed member listed'
    member' same
  have repository := RepositorySet.eq_of_name_eq known known' name
  exact ⟨repository, by rw [repository]⟩

end Element

namespace Graph

variable {d : Disk} {s : RepositorySet} {g : Graph}

/-- Every element of a graph that was rebuilt from source files comes from a declaration. Its path
is cut at the last double colon into the package that the source file names and the declared name;
its segments and all names in its body can be used by generated code, and none of them comes twice;
it states the repository and the file. Elements that state the same come from the same file of the
same repository. -/
theorem origins_of_rebuilt [SetOrder] (rebuilt : Rebuilt d s g) (flat : d.FlatNames) :
    (∀ e ∈ g.elements, ∃ r p source declaration, Origin d s e r p source declaration) ∧
      (∀ e r p source declaration, Origin d s e r p source declaration →
        WellNamed e r p source declaration) ∧
      ∀ e r p source declaration e' r' p' source' declaration',
        Origin d s e r p source declaration → Origin d s e' r' p' source' declaration' →
          e.source = e'.source → r = r' ∧ p = p' := by
  refine ⟨fun e member => ?_, fun _ _ _ _ _ => Element.wellNamed_of_origin flat,
    fun _ _ _ _ _ _ _ _ _ _ => Element.origin_eq_of_source flat⟩
  exact Element.exists_origin (rebuilt.elements.mem_iff.mp member)

attribute [local instance] SetOrder.asWritten in
/-- The class of the second repository comes from the file of that repository. -/
theorem origin_sample : ∃ r p source declaration,
    Origin Sample.disk Sample.repositories
      ⟨"q::B", "q", "/q/b.pure.yaml", [], .classBody ["p::A"] []⟩ r p source declaration ∧
    WellNamed ⟨"q::B", "q", "/q/b.pure.yaml", [], .classBody ["p::A"] []⟩ r p source
      declaration := by
  have flat : Sample.disk.FlatNames := by
    unfold Disk.FlatNames Flat
    decide
  obtain ⟨origins, wellNamed, -⟩ := origins_of_rebuilt Sample.rebuilt_graph flat
  obtain ⟨r, p, source, declaration, origin⟩ :=
    origins _ (List.mem_cons_of_mem _ List.mem_cons_self)
  exact ⟨r, p, source, declaration, origin, wellNamed _ _ _ _ _ origin⟩

end Graph

end ModelForge
