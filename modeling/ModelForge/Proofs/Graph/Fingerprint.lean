import ModelForge.Proofs.Repository.Declared
import ModelForge.Proofs.Text.Hex
import ModelForge.Proofs.Text.Packages
import ModelForge.Proofs.Text.RepositoryNames
import ModelForge.Proofs.Text.Utf8

/-! # What fingerprints tell apart

A fingerprint digests the name of a repository and then, file after file, the paths and contents of
its source files, with nothing in between. Two source trees have one fingerprint exactly if the
octets run together are the same, unless SHA-256 takes different octets for the same. So the change
of a single file is always seen, and trees of the same shape are told apart; but content that ends
in the path and content of the next file hides that file
(`ModelForge.Repository.fingerprint_eq_iff`, `ModelForge.Repository.fingerprint_of_joined`).
-/

namespace ModelForge

namespace Repository

variable {d d' : Disk} {r r' : Repository} {t t' : List (String × Octets)} {p : Path}
  {file : String × Octets} {files : List Path}

/-! ## The octets of a source tree -/

/-- How many octets a file adds to the digest for its path and for its content. -/
def sizes (file : String × Octets) : Nat × Nat := ((Utf8.encode file.1).length, file.2.length)

theorem treeOctets_cons (file : String × Octets) (t : List (String × Octets)) :
    treeOctets (file :: t) = Utf8.encode file.1 ++ (file.2 ++ treeOctets t) := by
  unfold treeOctets
  rw [List.flatMap_cons, List.append_assoc]

theorem treeOctets_append (front back : List (String × Octets)) :
    treeOctets (front ++ back) = treeOctets front ++ treeOctets back := List.flatMap_append

/-- Trees whose files have the same sizes, one after the other, are told apart by their octets. -/
theorem eq_of_treeOctets (shape : t.map sizes = t'.map sizes)
    (same : treeOctets t = treeOctets t') : t = t' := by
  induction t generalizing t' with
  | nil => exact (List.map_eq_nil_iff.mp shape.symm).symm
  | cons file rest ih =>
    cases t' with
    | nil => cases shape
    | cons file' rest' =>
      obtain ⟨path, content⟩ := file
      obtain ⟨path', content'⟩ := file'
      rw [List.map_cons, List.map_cons, List.cons.injEq] at shape
      obtain ⟨ofPath, ofContent⟩ := Prod.mk.inj shape.1
      rw [treeOctets_cons, treeOctets_cons] at same
      obtain ⟨paths, behind⟩ := List.append_inj same ofPath
      obtain ⟨contents, others⟩ := List.append_inj behind ofContent
      cases Utf8.encode_injective paths
      cases contents
      rw [ih shape.2 others]

/-- Two trees differ by the change of one file: its content is edited, or the file is added or
removed. -/
inductive OneFileApart : List (String × Octets) → List (String × Octets) → Prop
  | edited {front back path content content'} (differs : content ≠ content') :
      OneFileApart (front ++ (path, content) :: back) (front ++ (path, content') :: back)
  | added {front back file} : OneFileApart (front ++ back) (front ++ file :: back)
  | removed {front back file} : OneFileApart (front ++ file :: back) (front ++ back)

/-- A file with a path adds something to the octets of a tree. -/
theorem treeOctets_ne_of_added (front back : List (String × Octets)) (named : file.1 ≠ "") :
    treeOctets (front ++ back) ≠ treeOctets (front ++ file :: back) := by
  intro same
  rw [treeOctets_append, treeOctets_append, treeOctets_cons] at same
  have lengths := congrArg List.length (List.append_cancel_left same)
  simp only [List.length_append] at lengths
  have nothing : Utf8.encode file.1 = Utf8.encode "" := List.length_eq_zero_iff.mp (by omega)
  exact named (Utf8.encode_injective nothing)

/-- The change of one file changes the octets. -/
theorem OneFileApart.treeOctets_ne (apart : OneFileApart t t') (named : ∀ file ∈ t, file.1 ≠ "")
    (named' : ∀ file ∈ t', file.1 ≠ "") : treeOctets t ≠ treeOctets t' := by
  cases apart with
  | @edited front back path content content' differs =>
    intro same
    rw [treeOctets_append, treeOctets_append, treeOctets_cons, treeOctets_cons] at same
    have behind := List.append_cancel_left (List.append_cancel_left same)
    exact differs (List.append_cancel_right behind)
  | @added front back file =>
    have member : file ∈ front ++ file :: back :=
      List.mem_append_right front List.mem_cons_self
    exact treeOctets_ne_of_added front back (named' file member)
  | @removed front back file =>
    have member : file ∈ front ++ file :: back :=
      List.mem_append_right front List.mem_cons_self
    exact (treeOctets_ne_of_added front back (named file member)).symm

/-! ## Source trees on a disk -/

/-- A source file stands below the directory of its repository and has the name of one. -/
theorem exists_of_mem_sources (listed : r.sources d = .ok files) (member : p ∈ files) :
    ∃ parts, p = r.root.append (.ofParts parts) ∧
      ∃ name ∈ parts, isSourceName name = true := by
  unfold sources at listed
  obtain ⟨there, -, listed⟩ := Result.bind_eq_ok.mp listed
  split at listed
  · split at listed
    · next l _ =>
      cases listed
      obtain ⟨parts, found, rfl⟩ := List.mem_map.mp member
      refine ⟨parts, rfl, ?_⟩
      unfold sourceParts at found
      obtain ⟨⟨own, entry⟩, -, kept⟩ := List.mem_filterMap.mp (List.mem_mergeSort.mp found)
      obtain ⟨last, same⟩ := Option.ite_none_right_eq_some.mp kept
      cases same
      obtain ⟨name, final, source⟩ := Option.map_eq_some_iff.mp (beq_iff_eq.mp last)
      exact ⟨name, List.mem_of_getLast? final, source⟩
    · cases listed
      cases member
  · cases listed
    cases member

/-- The text of a path below a directory is that of the names that were added. -/
theorem textBelow_append (base : Path) (parts : List String) :
    base.textBelow (base.append (.ofParts parts)) = (Path.ofParts parts).text := by
  unfold Path.textBelow Path.append
  have relative : (Path.ofParts parts).isAbsolute = false := rfl
  rw [relative]
  exact congrArg (fun parts => (Path.ofParts parts).text) List.drop_left

/-- The paths in a source tree are not empty. -/
theorem path_ne_of_mem_tree (known : r.tree d = .ok t) (member : file ∈ t) : file.1 ≠ "" := by
  obtain ⟨files, listed, read⟩ := Result.bind_eq_ok.mp known
  obtain ⟨p, inside, made⟩ := Result.exists_of_mem_results read member
  obtain ⟨content, -, made⟩ := Result.bind_eq_ok.mp made
  cases made
  obtain ⟨parts, rfl, name, own, source⟩ := exists_of_mem_sources (orFail_eq_ok.mp listed) inside
  change r.root.textBelow (r.root.append (.ofParts parts)) ≠ ""
  obtain ⟨first, rest, rfl⟩ := List.exists_cons_of_ne_nil (List.ne_nil_of_mem own)
  have letter : 'l' ∈ name.toList :=
    (List.isSuffixOf_iff_suffix.mp source).subset (by decide)
  have written : 'l' ∈ (String.intercalate "/" (first :: rest)).toList := by
    rw [Segments.toList_intercalate]
    exact Segments.mem_joinWith_of_mem (List.mem_map_of_mem own) letter
  rw [textBelow_append]
  intro empty
  have nothing : "" ++ String.intercalate "/" (first :: rest) = "" := empty
  rw [String.empty_append] at nothing
  rw [nothing] at written
  cases written

/-! ## Fingerprints -/

/-- SHA-256 tells apart what the fingerprints of two repositories digest. -/
def DigestedApart (d : Disk) (r : Repository) (d' : Disk) (r' : Repository) : Prop :=
  ∀ a b, r.fingerprintInput d = .ok a → r'.fingerprintInput d' = .ok b →
    Sha256.digest a = Sha256.digest b → a = b

/-- Repositories of one name with source trees have fingerprints, and these are the same exactly if
the octets of the trees are. Hence trees of the same shape have one fingerprint only if they are the
same, and the change of a single file always gives another fingerprint. -/
theorem fingerprint_eq_iff (name : r.name = r'.name) (known : r.tree d = .ok t)
    (known' : r'.tree d' = .ok t') (apart : DigestedApart d r d' r') :
    ∃ print print', r.fingerprint d = .ok print ∧ r'.fingerprint d' = .ok print' ∧
      (print = print' ↔ treeOctets t = treeOctets t') ∧
      (t.map sizes = t'.map sizes → (print = print' ↔ t = t')) ∧
      (OneFileApart t t' → print ≠ print') := by
  have digested : Sha256.hexDigest (Utf8.encode r.name ++ treeOctets t) =
      Sha256.hexDigest (Utf8.encode r'.name ++ treeOctets t') ↔ treeOctets t = treeOctets t' := by
    rw [name]
    refine ⟨fun same => ?_, fun same => by rw [same]⟩
    have input := fingerprintInput_of_tree known
    rw [name] at input
    have octets := apart _ _ input (fingerprintInput_of_tree known') (Hex.encode_injective same)
    exact List.append_cancel_left octets
  refine ⟨_, _, fingerprint_of_tree known, fingerprint_of_tree known', digested, fun shape => ?_,
    fun change same => ?_⟩
  · rw [digested]
    exact ⟨eq_of_treeOctets shape, fun same => by rw [same]⟩
  · exact change.treeOctets_ne (fun _ => path_ne_of_mem_tree known)
      (fun _ => path_ne_of_mem_tree known') (digested.mp same)

end Repository

/-! ## A file that hides another one -/

namespace Sample

/-- A repository. -/
def joining : Repository := ⟨"a", [], .ofParts ["a"], legal_a⟩

/-- What the first source file declares; the text ends inside a comment. -/
def firstText : String := "package: x\nelements:\n- kind: class\n  name: A\n#"

/-- What the second source file declares. -/
def secondText : String := "\npackage: y\nelements:\n- kind: class\n  name: B\n"

/-- The repository with two source files. -/
def twoFiles : Disk :=
  ⟨[], [(["a"], .directory), (["a", "x.pure.yaml"], .file (Utf8.encode firstText)),
    (["a", "y.pure.yaml"], .file (Utf8.encode secondText))]⟩

/-- The repository with one source file, which holds the path of the other one as a comment. -/
def oneFile : Disk :=
  ⟨[], [(["a"], .directory),
    (["a", "x.pure.yaml"], .file (Utf8.encode (firstText ++ "y.pure.yaml" ++ secondText)))]⟩

/-- The two files of the first tree. -/
theorem sources_twoFiles : joining.sources twoFiles =
    .ok [.ofParts ["a", "x.pure.yaml"], .ofParts ["a", "y.pure.yaml"]] := by
  have found : joining.sources twoFiles = .ok
      (([["x.pure.yaml"], ["y.pure.yaml"]].mergeSort Path.namesLe).map fun parts =>
        joining.root.append (.ofParts parts)) := rfl
  rw [found, List.mergeSort_of_pairwise (by decide)]
  rfl

/-- The contents of the two files of the first tree. -/
theorem tree_twoFiles : joining.tree twoFiles = .ok
    [("x.pure.yaml", Utf8.encode firstText), ("y.pure.yaml", Utf8.encode secondText)] :=
  Repository.tree_eq_ok.mpr ⟨_, sources_twoFiles, .cons ⟨by decide, rfl⟩
    (.cons ⟨by decide, rfl⟩ .nil)⟩

/-- The one file of the second tree holds the path and the content of the other one as well. -/
theorem tree_oneFile : joining.tree oneFile = .ok
    [("x.pure.yaml", Utf8.encode (firstText ++ "y.pure.yaml" ++ secondText))] :=
  Result.toOption_eq_some.mp (by decide +kernel)

end Sample

namespace Repository

open Sample

/-- Two source trees of which one has a file less have one fingerprint, however good the digest. -/
theorem fingerprint_of_joined : ∃ t t' print, joining.tree twoFiles = .ok t ∧
    joining.tree oneFile = .ok t' ∧ t ≠ t' ∧ joining.fingerprint twoFiles = .ok print ∧
      joining.fingerprint oneFile = .ok print := by
  have octets : treeOctets [("x.pure.yaml", Utf8.encode firstText),
      ("y.pure.yaml", Utf8.encode secondText)] = treeOctets [("x.pure.yaml", Utf8.encode
        (firstText ++ "y.pure.yaml" ++ secondText))] := by decide +kernel
  have apart : DigestedApart twoFiles joining oneFile joining := by
    intro a b input input' _
    rw [fingerprintInput_of_tree tree_twoFiles, octets] at input
    rw [fingerprintInput_of_tree tree_oneFile] at input'
    exact Except.ok.inj (input.symm.trans input')
  obtain ⟨print, print', printed, printed', same, -⟩ :=
    fingerprint_eq_iff rfl tree_twoFiles tree_oneFile apart
  refine ⟨_, _, print, tree_twoFiles, tree_oneFile, by decide, printed, ?_⟩
  rw [same.mpr octets]
  exact printed'

end Repository

end ModelForge
