import ModelForge.Proofs.Files.Places
import ModelForge.Proofs.Repository.Declared
import ModelForge.Proofs.Text.RepositoryNames
import ModelForge.Proofs.Text.Utf8Blocks

/-! # How loading a definition or a source file fails

A definition and a source file are documents: texts in UTF-8 that are read as YAML and then checked.
What breaks the rules of YAML or the checks is said with a failure that names the file. Two kinds of
faults are passed on as they are: octets that are no UTF-8, and scalars that have no value although
the text breaks no rule, such as a day that no month has. For all other contents loading ends as it
is documented (`ModelForge.Repository.loading_of_content`).
-/

namespace ModelForge

variable {d : Disk} {r : Repository} {p : Path} {content : Octets} {text : String}

namespace Document

/-- The fault of a text that is read as YAML, if it has one. -/
def fault? [SetOrder] (text : String) : Option Yaml.Fault :=
  match Yaml.parse (Yaml.unifyLineEnds text.toList) with
  | .ok _ => none
  | .error f => some f

variable [SetOrder]

/-- The encoding of a text is read as what the text is read as; nothing is read as an empty map. -/
theorem read_encode (text : String) : read (Utf8.encode text) =
    match Yaml.parse (Yaml.unifyLineEnds text.toList) with
    | .ok v => .ok (if v.isNothing then .map [] else v)
    | .error f => .error (.yaml f) := by
  have decoded : Utf8.decodeBlocks (Utf8.encode text) = .ok text.toList :=
    Utf8.decodeBlocks_eq_ok.mpr rfl
  unfold read
  rw [decoded]
  rfl

/-- A text without a fault is read. -/
theorem read_of_no_fault (sound : fault? text = none) :
    ∃ v, read (Utf8.encode text) = .ok v := by
  unfold fault? at sound
  rw [read_encode]
  split at sound
  · exact ⟨_, rfl⟩
  · cases sound

/-- A text with a fault is refused for it. -/
theorem read_of_fault {f : Yaml.Fault} (faulty : fault? text = some f) :
    read (Utf8.encode text) = .error (.yaml f) := by
  unfold fault? at faulty
  rw [read_encode]
  split at faulty
  · cases faulty
  · cases faulty
    rfl

/-- Octets that encode no text are not read. -/
theorem read_of_undecodable (undecodable : ∀ text, content ≠ Utf8.encode text) :
    ∃ f, read content = .error (.undecodable f) := by
  unfold read
  cases decoded : Utf8.decodeBlocks content with
  | error f => exact ⟨f, rfl⟩
  | ok cs =>
    have same := Utf8.decodeBlocks_eq_ok.mp decoded
    rw [← String.toList_ofList (l := cs)] at same
    exact absurd same (undecodable (String.ofList cs))

end Document

namespace Disk

/-- Where something is read, a file stands and no directory. -/
theorem look_of_read (read : d.read p = .ok content) : d.look p = .ok (some (.file content)) := by
  obtain ⟨led, standing⟩ := read_eq_ok.mp read
  obtain ⟨no_null, located⟩ := locateFor_eq_ok.mp led
  unfold look
  rw [no_null, located, if_neg Bool.false_ne_true]
  exact congrArg Except.ok standing

end Disk

namespace Repository

/-! ## Loading a file that can be read -/

variable [SetOrder]

/-- What is loaded depends on the content of the file. -/
theorem load_of_read (read : d.read p = .ok content) : load d p =
    (readDefinition p content).map fun definition =>
      ⟨definition.name, Names.ofList definition.dependencies, p.parent, definition.legal⟩ := by
  have look := Disk.look_of_read read
  have no_directory : definitionPath d p = .ok p := by
    unfold definitionPath Disk.isDirectory
    rw [look]
    rfl
  have file : d.isFile p = .ok true := by
    unfold Disk.isFile
    rw [look]
    rfl
  unfold load
  rw [no_directory]
  change (Disk.orFail (d.isFile p) >>= fun file => _) = _
  rw [file]
  change (Disk.orFail (d.read p) >>= fun content => readDefinition p content >>= _) = _
  rw [read]
  change (readDefinition p content >>= fun definition => _) = _
  cases readDefinition p content <;> rfl

/-- What is parsed depends on the content of the file. -/
theorem parse_of_content (read : d.read p = .ok content) (r : Repository) : r.parse d p =
    (readSource (r.sourceId p) content).map fun s =>
      s.declarations.map (Element.ofDeclaration s.package r.name (r.sourceId p)) := by
  unfold parse
  rw [read]
  change (readSource (r.sourceId p) content >>= fun s => _) = _
  cases readSource (r.sourceId p) content <;> rfl

/-- Why a document cannot be read, unless it breaks the rules of YAML. -/
def Foreign (f : Document.Fault) : Prop := f ≠ .yaml .malformed

/-- A fault other than a breach of the rules of YAML is passed on as it is. -/
theorem fails_of_foreign {f : Document.Fault} (read : d.read p = .ok content)
    (failed : Document.read content = .error f) (foreign : Foreign f) (r : Repository) :
    load d p = .error (.ofDocument f) ∧ r.parse d p = .error (.ofDocument f) := by
  rw [load_of_read read, parse_of_content read]
  unfold readDefinition readSource
  rw [failed]
  cases f with
  | undecodable f => exact ⟨rfl, rfl⟩
  | yaml f => cases f <;> first | exact absurd rfl foreign | exact ⟨rfl, rfl⟩

/-! ## Documented failures -/

/-- A definition is loaded, or the failure says that it is malformed. -/
def LoadsAsDocumented (d : Disk) (p : Path) : Prop :=
  (∃ r, load d p = .ok r) ∨ ∃ cause, load d p = .error (.definition (.malformed p) cause)

/-- The elements of a source file are read, or the failure says which source file is at fault. -/
def ParsesAsDocumented (d : Disk) (r : Repository) (p : Path) : Prop :=
  (∃ es, r.parse d p = .ok es) ∨
    ∃ fault cause, r.parse d p = .error (.rebuild fault (some (r.sourceId p)) cause)

/-- The documented failures are those of YAML and of the checks. -/
theorem documented_of_malformed (read : d.read p = .ok (Utf8.encode text))
    (sound : ∀ f, Document.fault? text = some f → f = .malformed) (r : Repository) :
    LoadsAsDocumented d p ∧ ParsesAsDocumented d r p := by
  unfold LoadsAsDocumented ParsesAsDocumented
  rw [load_of_read read, parse_of_content read]
  unfold readDefinition readSource
  cases fault : Document.fault? text with
  | some f =>
    cases sound f fault
    rw [Document.read_of_fault fault]
    exact ⟨.inr ⟨_, rfl⟩, .inr ⟨_, _, rfl⟩⟩
  | none =>
    obtain ⟨v, done⟩ := Document.read_of_no_fault fault
    rw [done]
    dsimp only
    constructor
    · cases Definition.check v with
      | valid definition => exact .inl ⟨_, rfl⟩
      | invalid vs => exact .inr ⟨_, rfl⟩
    · cases Source.check v with
      | valid source => exact .inl ⟨_, rfl⟩
      | invalid vs => exact .inr ⟨_, _, rfl⟩

/-- Whatever a file holds, loading it as a definition and reading its declarations end in one of
three ways. Where the octets encode a text with no fault or one against the rules of YAML, both end
as documented. Where a scalar of the text has no value, both fail with that fault. Where the octets
encode no text, both fail; within half a block they say so, and further behind another fault may
come first. -/
theorem loading_of_content (read : d.read p = .ok content) (r : Repository) :
    (∀ text, content = Utf8.encode text →
      (∀ f, Document.fault? text = some f → f = .malformed) →
        LoadsAsDocumented d p ∧ ParsesAsDocumented d r p) ∧
      (∀ text f, content = Utf8.encode text → Document.fault? text = some f → f ≠ .malformed →
        load d p = .error (.yaml f) ∧ r.parse d p = .error (.yaml f)) ∧
      ((∀ text, content ≠ Utf8.encode text) →
        (∀ repository, load d p ≠ .ok repository) ∧ (∀ es, r.parse d p ≠ .ok es) ∧
        (2 * content.length ≤ Utf8.blockSize → ∃ f,
          load d p = .error (.undecodable f) ∧ r.parse d p = .error (.undecodable f))) := by
  refine ⟨?_, ?_, fun undecodable => ?_⟩
  · rintro text rfl sound
    exact documented_of_malformed read sound r
  · rintro text f rfl faulty foreign
    exact fails_of_foreign read (Document.read_of_fault faulty)
      (fun same => foreign (Document.Fault.yaml.inj same)) r
  · obtain ⟨f, failed⟩ := Document.read_of_undecodable undecodable
    obtain ⟨loading, parsing⟩ := fails_of_foreign read failed (fun same => nomatch same) r
    refine ⟨fun repository loaded => ?_, fun es parsed => ?_, fun _ => ⟨f, loading, parsing⟩⟩
    · rw [loading] at loaded
      cases loaded
    · rw [parsing] at parsed
      cases parsed

end Repository

/-! ## Faults that are passed on -/

attribute [local instance] SetOrder.asWritten

namespace Sample

/-- A repository without dependencies. -/
def unplaced : Repository := ⟨"q", [], .ofParts [], legal_q⟩

/-- A file that is no text, and one with a month that no year has. -/
def faulty : Disk :=
  ⟨[], [(["a"], .file [0xFF]), (["b"], .file (Utf8.encode "name: 2020-13-45\n"))]⟩

end Sample

namespace Repository

open Sample

/-- Neither faulty file is loaded or read, and neither failure is a documented one. -/
theorem loading_faulty_samples :
    ¬ LoadsAsDocumented faulty (.ofParts ["a"]) ∧
      ¬ ParsesAsDocumented faulty unplaced (.ofParts ["a"]) ∧
      load faulty (.ofParts ["b"]) = .error (.yaml (.badScalar "month must be in 1..12")) ∧
      unplaced.parse faulty (.ofParts ["b"]) =
        .error (.yaml (.badScalar "month must be in 1..12")) := by
  have first : faulty.read (.ofParts ["a"]) = .ok [0xFF] := rfl
  have second : faulty.read (.ofParts ["b"]) = .ok (Utf8.encode "name: 2020-13-45\n") := rfl
  have undecodable : ∀ text, [0xFF] ≠ Utf8.encode text := by
    intro text same
    have decoded : Utf8.decodeBlocks [0xFF] = .ok text.toList := Utf8.decodeBlocks_eq_ok.mpr same
    cases decoded
  have fault : Document.fault? "name: 2020-13-45\n" =
      some (.badScalar "month must be in 1..12") := by
    decide +kernel
  obtain ⟨f, loading, parsing⟩ :=
    ((loading_of_content first unplaced).2.2 undecodable).2.2 (by decide)
  refine ⟨?_, ?_, (loading_of_content second unplaced).2.1 _ _ rfl fault (fun same => nomatch same)⟩
  · unfold LoadsAsDocumented
    rw [loading]
    rintro (⟨_, no⟩ | ⟨_, no⟩) <;> cases no
  · unfold ParsesAsDocumented
    rw [parsing]
    rintro (⟨_, no⟩ | ⟨_, _, no⟩) <;> cases no

end Repository

end ModelForge
