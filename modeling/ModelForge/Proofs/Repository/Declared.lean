import ModelForge.Graph.Fingerprint
import ModelForge.Proofs.Step

/-! # What the source files of a repository declare

The declared elements of a repository depend on its name and on its source tree alone, the paths
and contents of its source files (`ModelForge.Repository.declared_of_tree`), and so does its
fingerprint (`ModelForge.Repository.fingerprint_of_tree`). Every declared element is tagged with the
repository and with the source file that declares it (`ModelForge.Repository.tagged_of_declares`).
-/

namespace ModelForge

namespace Repository

variable {d d' : Disk} {r r' : Repository} {p : Path} {content : Octets} {es : List Element}
  {e : Element} {t : List (String × Octets)}

/-- The paths of the source files of a repository, seen from it, with their contents. -/
def tree (d : Disk) (r : Repository) : Except Failure (List (String × Octets)) := do
  (← Disk.orFail (r.sources d)).mapM fun p => do
    return (r.root.textBelow p, ← Disk.orFail (d.read p))

/-- The elements that a file of the source tree of a repository declares. -/
def elementsOf [SetOrder] (name : String) (file : String × Octets) : Except Failure
    (List Element) := do
  let s ← readSource ("/" ++ name ++ "/" ++ file.1) file.2
  return s.declarations.map
    (Element.ofDeclaration s.package name ("/" ++ name ++ "/" ++ file.1))

/-- All elements that a repository declares, if all its source files can be read. -/
def declared [SetOrder] (d : Disk) (r : Repository) : Except Failure (List Element) := do
  return (← (← Disk.orFail (r.sources d)).mapM (r.parse d)).flatten

/-- Every source file of a repository can be read, parses and is valid. -/
def Readable [SetOrder] (d : Disk) (r : Repository) : Prop :=
  ∃ files, r.sources d = .ok files ∧ ∀ p ∈ files, ∃ es, r.parse d p = .ok es

/-- The elements that the readable source files of a repository declare. -/
def declares [SetOrder] (d : Disk) (r : Repository) : List Element :=
  match r.sources d with
  | .ok files => files.flatMap fun p => (r.parse d p).toOption.getD []
  | .error _ => []

theorem orFail_eq_ok {α : Type} {result : Except Files.Fault α} {a : α} :
    Disk.orFail result = .ok a ↔ result = .ok a := by
  cases result <;> simp [Disk.orFail]

/-! ## Declared elements -/

/-- Files that were parsed give the elements of each of them. -/
theorem flatten_of_parsed [SetOrder] {files : List Path} {parsed : List (List Element)}
    (each : files.mapM (r.parse d) = .ok parsed) :
    parsed.flatten = files.flatMap fun p => (r.parse d p).toOption.getD [] := by
  have pairs := Result.mapM_eq_ok.mp each
  clear each
  induction pairs with
  | nil => rfl
  | @cons p es files parsed first _ ih =>
    rw [List.flatten_cons, List.flatMap_cons, ih, first]
    rfl

/-- All elements are declared exactly when all source files can be read. -/
theorem declared_eq_ok [SetOrder] : r.declared d = .ok es ↔ r.Readable d ∧ es = r.declares d := by
  unfold declared
  rw [Result.bind_eq_ok]
  constructor
  · rintro ⟨files, listed, parsedOn⟩
    obtain ⟨parsed, each, made⟩ := Result.bind_eq_ok.mp parsedOn
    cases made
    have sources := orFail_eq_ok.mp listed
    refine ⟨⟨files, sources, fun p member => ?_⟩, ?_⟩
    · obtain ⟨es, -, read⟩ := Result.exists_of_mapM each member
      exact ⟨es, read⟩
    · rw [declares, sources]
      exact flatten_of_parsed each
  · rintro ⟨⟨files, sources, each⟩, rfl⟩
    obtain ⟨parsed, all⟩ := Result.mapM_of_each each
    refine ⟨files, orFail_eq_ok.mpr sources, Result.bind_eq_ok.mpr ⟨parsed, all, ?_⟩⟩
    rw [declares, sources]
    exact congrArg Except.ok (flatten_of_parsed all)

/-- A repository is readable exactly if its declarations can be read. -/
theorem readable_iff [SetOrder] : r.Readable d ↔ ∃ es, r.declared d = .ok es :=
  ⟨fun readable => ⟨_, declared_eq_ok.mpr ⟨readable, rfl⟩⟩,
    fun ⟨_, declared⟩ => (declared_eq_ok.mp declared).1⟩

/-- An element is tagged with a repository and with one of its source files. -/
def Tagged (d : Disk) (r : Repository) (e : Element) : Prop :=
  e.repository = r.name ∧
    ∃ files, r.sources d = .ok files ∧ ∃ p ∈ files, e.source = r.sourceId p

/-- The elements of a file are the declarations of its source. -/
theorem source_of_parse [SetOrder] (parsed : r.parse d p = .ok es) : ∃ content s,
    d.read p = .ok content ∧ readSource (r.sourceId p) content = .ok s ∧
      es = s.declarations.map (Element.ofDeclaration s.package r.name (r.sourceId p)) := by
  obtain ⟨content, read, sourceOn⟩ := Result.bind_eq_ok.mp parsed
  obtain ⟨s, valid, made⟩ := Result.bind_eq_ok.mp sourceOn
  cases made
  exact ⟨content, s, orFail_eq_ok.mp read, valid, rfl⟩

/-- An element is declared by a repository if one of its files declares it. -/
theorem mem_declares [SetOrder] : e ∈ r.declares d ↔
    ∃ files, r.sources d = .ok files ∧ ∃ p ∈ files, ∃ es, r.parse d p = .ok es ∧ e ∈ es := by
  unfold declares
  cases listed : r.sources d with
  | error f => exact ⟨fun none => (nomatch none), fun ⟨_, no, _⟩ => (nomatch no)⟩
  | ok files =>
    simp only [List.mem_flatMap, Except.ok.injEq, exists_eq_left']
    refine exists_congr fun p => and_congr_right fun _ => ?_
    cases r.parse d p <;> simp [Except.toOption]

/-- Every declared element is tagged with its repository and its source file. -/
theorem tagged_of_declares [SetOrder] (member : e ∈ r.declares d) : Tagged d r e := by
  obtain ⟨files, listed, p, inside, es, parsed, made⟩ := mem_declares.mp member
  obtain ⟨content, s, -, -, rfl⟩ := source_of_parse parsed
  obtain ⟨declaration, -, rfl⟩ := List.mem_map.mp made
  exact ⟨rfl, files, listed, p, inside, rfl⟩

/-! ## Source trees -/

/-- Parsing a file depends on its content and its path below the root. -/
theorem parse_of_read [SetOrder] (read : d.read p = .ok content) :
    r.parse d p = elementsOf r.name (r.root.textBelow p, content) := by
  unfold parse elementsOf sourceId
  rw [read]
  rfl

/-- A source tree depends on the directory of the repository alone. -/
theorem tree_eq_of_root (same : r.root = r'.root) : r.tree d = r'.tree d := by
  unfold tree sources
  rw [same]

/-- A source tree is read file by file. -/
theorem tree_eq_ok : r.tree d = .ok t ↔ ∃ files, r.sources d = .ok files ∧
    List.Forall₂ (fun p file => file.1 = r.root.textBelow p ∧ d.read p = .ok file.2) files t := by
  unfold tree
  rw [Result.bind_eq_ok]
  refine exists_congr fun files => and_congr orFail_eq_ok ?_
  rw [Result.mapM_eq_ok]
  have each (p : Path) (file : String × Octets) :
      (do return (r.root.textBelow p, ← Disk.orFail (d.read p)) : Except Failure _) = .ok file ↔
        file.1 = r.root.textBelow p ∧ d.read p = .ok file.2 := by
    cases d.read p with
    | error f => exact ⟨fun no => (nomatch no), fun ⟨_, no⟩ => (nomatch no)⟩
    | ok content =>
      constructor
      · intro same
        cases same
        exact ⟨rfl, rfl⟩
      · rintro ⟨path, same⟩
        cases same
        rw [← path]
        rfl
  simp only [each]

/-- What a repository declares depends on its name and its source tree. -/
theorem declared_of_tree [SetOrder] (known : r.tree d = .ok t) :
    r.declared d = (t.mapM (elementsOf r.name)).map List.flatten := by
  obtain ⟨files, listed, pairs⟩ := tree_eq_ok.mp known
  have same : files.mapM (r.parse d) = t.mapM (elementsOf r.name) := by
    clear listed known
    induction pairs with
    | nil => rfl
    | @cons p file files t first _ ih =>
      obtain ⟨path, content⟩ := file
      obtain ⟨rfl, read⟩ := first
      rw [List.mapM_cons, List.mapM_cons, parse_of_read read, ih]
  unfold declared
  rw [listed]
  change (files.mapM (r.parse d) >>= fun parsed => _) = _
  rw [same]
  cases t.mapM (elementsOf r.name) <;> rfl

/-- A source tree is known if its files can be read. -/
theorem tree_of_reads {files : List Path} (listed : r.sources d = .ok files)
    (reads : ∀ p ∈ files, ∃ content, d.read p = .ok content) : ∃ t, r.tree d = .ok t := by
  have each : ∀ p ∈ files, ∃ file : String × Octets,
      (do return (r.root.textBelow p, ← Disk.orFail (d.read p)) : Except Failure _) = .ok file := by
    intro p member
    obtain ⟨content, read⟩ := reads p member
    exact ⟨(r.root.textBelow p, content), by rw [read]; rfl⟩
  obtain ⟨t, all⟩ := Result.mapM_of_each each
  exact ⟨t, Result.bind_eq_ok.mpr ⟨files, orFail_eq_ok.mpr listed, all⟩⟩

/-- A repository with readable declarations has a source tree. -/
theorem tree_of_readable [SetOrder] (readable : r.Readable d) : ∃ t, r.tree d = .ok t := by
  obtain ⟨files, listed, each⟩ := readable
  refine tree_of_reads listed fun p member => ?_
  obtain ⟨es, parsed⟩ := each p member
  obtain ⟨content, _, read, -, -⟩ := source_of_parse parsed
  exact ⟨content, read⟩

/-- Repositories of one name with one source tree declare the same. -/
theorem declared_eq_of_tree [SetOrder] (name : r.name = r'.name) (known : r.tree d = .ok t)
    (known' : r'.tree d' = .ok t) : r.declared d = r'.declared d' := by
  rw [declared_of_tree known, declared_of_tree known', name]

/-- Repositories that read the same declare the same. -/
theorem declares_eq_of_declared [SetOrder] (same : r.declared d = r'.declared d')
    (readable : r.Readable d) :
    r'.Readable d' ∧ r.declares d = r'.declares d' := by
  have declared : r'.declared d' = .ok (r.declares d) := by
    rw [← same]
    exact declared_eq_ok.mpr ⟨readable, rfl⟩
  exact declared_eq_ok.mp declared

/-! ## Fingerprints -/

/-- The octets that a source tree adds to the digest. -/
def treeOctets (t : List (String × Octets)) : Octets :=
  t.flatMap fun file => Utf8.encode file.1 ++ file.2

/-- What a fingerprint digests depends on the name of the repository and its source tree. -/
theorem fingerprintInput_of_tree (known : r.tree d = .ok t) :
    r.fingerprintInput d = .ok (Utf8.encode r.name ++ treeOctets t) := by
  obtain ⟨files, listed, pairs⟩ := tree_eq_ok.mp known
  have parts : files.mapM (r.fingerprintPart d) =
      .ok (t.map fun file => Utf8.encode file.1 ++ file.2) := by
    rw [Result.mapM_eq_ok, List.forall₂_map_right_iff]
    refine pairs.imp fun p file ⟨path, read⟩ => ?_
    unfold fingerprintPart
    rw [read, path]
    rfl
  unfold fingerprintInput
  rw [listed]
  change (files.mapM (r.fingerprintPart d) >>= fun parts => _) = _
  rw [parts]
  rfl

/-- The fingerprint of a repository depends on its name and its source tree. -/
theorem fingerprint_of_tree (known : r.tree d = .ok t) :
    r.fingerprint d = .ok (Sha256.hexDigest (Utf8.encode r.name ++ treeOctets t)) := by
  unfold fingerprint
  rw [fingerprintInput_of_tree known]
  rfl

/-- A repository with a fingerprint has a source tree. -/
theorem tree_of_fingerprint {print : String} (printed : r.fingerprint d = .ok print) :
    ∃ t, r.tree d = .ok t := by
  obtain ⟨input, inputOf, -⟩ := Result.bind_eq_ok.mp printed
  obtain ⟨files, listed, partsOn⟩ := Result.bind_eq_ok.mp inputOf
  obtain ⟨parts, each, -⟩ := Result.bind_eq_ok.mp partsOn
  refine tree_of_reads (orFail_eq_ok.mp listed) fun p member => ?_
  obtain ⟨part, -, made⟩ := Result.exists_of_mapM each member
  obtain ⟨content, read, -⟩ := Result.bind_eq_ok.mp made
  exact ⟨content, orFail_eq_ok.mp read⟩

end Repository

end ModelForge
