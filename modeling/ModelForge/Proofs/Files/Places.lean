import Mathlib.Data.List.Induction
import ModelForge.Proofs.Files.Replace

/-! # Where paths lead

A path leads to one place, whatever stands on the disk (`ModelForge.Disk.place`), provided that
there is a directory at every place on its way and no name is too long
(`ModelForge.Disk.locate_eq_ok`). So a path leads to the same place as long as directories are kept,
and names below a directory lead to places of their own.
-/

namespace ModelForge

namespace Disk

open Files

variable {d d' : Disk} {p directory : Path} {l base : Location} {name : String}
  {names more : List String} {entry : Entry} {content : Octets}

/-- The place that a name leads to from another one. -/
def onward (base : Location) (name : String) : Location :=
  if name = ".." then base.dropLast else base ++ [name]

/-- The place that a path starts from. -/
def start (d : Disk) (p : Path) : Location := if p.isAbsolute then [] else d.here

/-- The place that a path leads to. -/
def place (d : Disk) (p : Path) : Location := p.parts.foldl onward (d.start p)

/-- The places that a path goes through, its own included. -/
def Way (d : Disk) (p : Path) (l : Location) : Prop :=
  ∃ names, names <+: p.parts ∧ l = names.foldl onward (d.start p)

/-- Names can be followed from a place: each of them stands in a directory and is not too long. -/
def Passable (d : Disk) : Location → List String → Prop
  | _, [] => True
  | base, name :: rest =>
    d.entry? base = some .directory ∧ (Utf8.encode name).length ≤ nameLimit ∧
      d.Passable (onward base name) rest

/-- Names lead somewhere exactly if directories stand on the way, and then to the place that the
names tell. -/
theorem walk_eq_ok :
    d.walk base names = .ok l ↔ d.Passable base names ∧ l = names.foldl onward base := by
  induction names generalizing base with
  | nil =>
    refine ⟨fun led => ⟨trivial, (Except.ok.inj led).symm⟩, ?_⟩
    rintro ⟨-, rfl⟩
    rfl
  | cons name names ih =>
    rw [walk, Passable, List.foldl_cons]
    cases standing : d.entry? base with
    | none =>
      constructor
      · intro led
        cases led
      · rintro ⟨⟨no, -⟩, -⟩
        cases no
    | some entry =>
      cases entry with
      | file content =>
        constructor
        · intro led
          cases led
        · rintro ⟨⟨no, -⟩, -⟩
          cases no
      | directory =>
        dsimp only
        split
        · next long =>
          constructor
          · intro led
            cases led
          · rintro ⟨⟨-, short, -⟩, -⟩
            omega
        · next short =>
          rw [← onward, ih, and_assoc, and_assoc]
          exact ⟨fun led => ⟨rfl, Nat.le_of_not_lt short, led⟩, fun led => led.2.2⟩

/-- A path is located at its place, if its text is not too long and its names can be followed. -/
theorem locate_eq_ok : d.locate p = .ok l ↔
    (Utf8.encode p.text).length < pathLimit ∧ d.Passable (d.start p) p.parts ∧ l = d.place p := by
  unfold locate
  split
  · next long =>
    refine ⟨fun no => (nomatch no), ?_⟩
    rintro ⟨short, -⟩
    omega
  · next short =>
    rw [← start, walk_eq_ok]
    exact ⟨fun led => ⟨Nat.lt_of_not_le short, led⟩, fun led => led.2⟩

theorem place_of_locate (led : d.locate p = .ok l) : l = d.place p := (locate_eq_ok.mp led).2.2

/-- Names can be walked exactly if all but the last can, there is a directory, and the last name is
not too long. -/
theorem passable_append_singleton : d.Passable base (names ++ [name]) ↔
    d.Passable base names ∧ d.entry? (names.foldl onward base) = some .directory ∧
      (Utf8.encode name).length ≤ nameLimit := by
  induction names generalizing base with
  | nil =>
    change _ ∧ _ ∧ True ↔ True ∧ _
    rw [and_true, true_and]
    rfl
  | cons first names ih =>
    rw [List.cons_append, Passable, Passable, ih, List.foldl_cons, and_assoc, and_assoc]

theorem onward_of_ne (proper : name ≠ "..") : onward base name = base ++ [name] := if_neg proper

/-! ## Names below a directory -/

/-- The path of a name below a directory. -/
def inside (directory : Path) (name : String) : Path := directory.append (.ofParts [name])

/-- The place of a file in a directory. -/
theorem place_inside (d : Disk) (directory : Path) (name : String) :
    d.place (inside directory name) = onward (d.place directory) name :=
  List.foldl_append ..

theorem place_inside_of_ne (proper : name ≠ "..") :
    d.place (inside directory name) = d.place directory ++ [name] := by
  rw [place_inside, onward_of_ne proper]

/-- On the way of a file is what is on the way of its directory, and that directory. -/
theorem way_inside (way : d.Way (inside p name) l) :
    d.Way p l ∨ l = onward (d.place p) name := by
  obtain ⟨names, above, rfl⟩ := way
  rcases List.prefix_concat_iff.mp (show names <+: p.parts ++ [name] from above) with rfl | shorter
  · exact .inr (place_inside d p name)
  · exact .inl ⟨names, shorter, rfl⟩

/-- Names without steps back lead on as they are. -/
theorem foldl_onward (plain : ".." ∉ names) (base : Location) :
    names.foldl onward base = base ++ names := by
  induction names generalizing base with
  | nil => exact (List.append_nil base).symm
  | cons name names ih =>
    obtain ⟨first, others⟩ := List.ne_and_not_mem_of_not_mem_cons plain
    rw [List.foldl_cons, onward_of_ne first.symm, ih others, List.append_assoc,
      List.singleton_append]

/-- A path that never goes back leads downward only. -/
theorem prefix_of_way (plain : ".." ∉ p.parts) (way : d.Way p l) : l <+: d.place p := by
  obtain ⟨names, above, rfl⟩ := way
  unfold place
  rw [foldl_onward plain, foldl_onward fun member => plain (above.subset member)]
  exact List.prefix_append_right_inj _ |>.mpr above

/-- A name below a directory can be located where the directory is. -/
theorem locate_inside_eq_ok : d.locate (inside directory name) = .ok l ↔
    (Utf8.encode (inside directory name).text).length < pathLimit ∧
      d.Passable (d.start directory) directory.parts ∧
      d.entry? (d.place directory) = some .directory ∧ (Utf8.encode name).length ≤ nameLimit ∧
      l = onward (d.place directory) name := by
  rw [locate_eq_ok, place_inside]
  change _ ∧ d.Passable (d.start directory) (directory.parts ++ [name]) ∧ _ ↔ _
  rw [passable_append_singleton, and_assoc, and_assoc]
  rfl

/-- What a path leads to that ends in a name of its own stands in a directory. -/
theorem parent_of_locate (ends : endsInName p = true) (led : d.locate p = .ok l) :
    ∃ above name, l = above ++ [name] ∧ d.entry? above = some .directory := by
  obtain ⟨-, passable, rfl⟩ := locate_eq_ok.mp led
  unfold place
  unfold endsInName at ends
  rcases p.parts.eq_nil_or_concat with none | ⟨names, name, parts⟩
  · rw [none] at ends
    cases ends
  · rw [parts] at ends passable ⊢
    rw [List.concat_eq_append, List.getLast?_concat] at ends
    rw [List.concat_eq_append] at passable ⊢
    obtain ⟨-, there, -⟩ := passable_append_singleton.mp passable
    rw [List.foldl_append, List.foldl_cons, List.foldl_nil, onward_of_ne (of_decide_eq_true ends)]
    exact ⟨_, name, rfl, there⟩

/-! ## Kept directories -/

theorem KeepsDirectories.refl (d : Disk) : KeepsDirectories d d := ⟨rfl, fun _ there => there⟩

/-- Where paths lead depends only on where relative ones start. -/
theorem place_congr (here : d'.here = d.here) (p : Path) : d'.place p = d.place p := by
  unfold place start
  rw [here]

theorem way_congr (here : d'.here = d.here) : d'.Way p l ↔ d.Way p l := by
  unfold Way start
  rw [here]

theorem KeepsDirectories.place_eq (keeps : KeepsDirectories d d') (p : Path) :
    d'.place p = d.place p :=
  place_congr keeps.here p

/-- A file can be read exactly if its path leads to it. -/
theorem read_eq_ok : d.read p = .ok content ↔
    d.locateFor p = .ok (d.place p) ∧ d.entry? (d.place p) = some (.file content) := by
  constructor
  · intro read
    obtain ⟨l, led, rest⟩ := Result.bind_eq_ok.mp read
    have same := place_of_locate (locateFor_eq_ok.mp led).2
    subst same
    refine ⟨led, ?_⟩
    split at rest
    · next standing =>
      cases rest
      exact standing
    · cases rest
    · cases rest
  · rintro ⟨led, standing⟩
    obtain ⟨free, led⟩ := locateFor_eq_ok.mp led
    exact read_of_file free led standing

/-- Nothing is read where nothing stands. -/
theorem read_of_none (led : d.locateFor p = .ok (d.place p)) (empty : d.entry? (d.place p) = none) :
    d.read p = .error (.failed .notFound p.text none) := by
  unfold read
  rw [led]
  dsimp only [bind, Except.bind]
  rw [empty]
  rfl

/-- A path that led somewhere still does while directories are kept. -/
theorem locateFor_of_keepsDirectories (keeps : KeepsDirectories d d')
    (led : d.locateFor p = .ok l) : d'.locateFor p = .ok l := by
  obtain ⟨free, led⟩ := locateFor_eq_ok.mp led
  exact locateFor_eq_ok.mpr ⟨free, locate_of_keepsDirectories keeps led⟩

/-- A directory stands at a path. -/
theorem isDirectory_eq_true : d.isDirectory p = .ok true ↔
    d.locateFor p = .ok (d.place p) ∧ d.entry? (d.place p) = some .directory := by
  unfold isDirectory look
  rw [locateFor_eq_ok]
  cases hasNull p with
  | true =>
    refine ⟨fun no => ?_, fun no => (nomatch no.1.1)⟩
    exact absurd (Except.ok.inj no) (by decide)
  | false =>
    cases led : d.locate p with
    | error r => cases r <;> exact ⟨fun no => (nomatch no), fun no => (nomatch no.1.2)⟩
    | ok l =>
      rw [place_of_locate led]
      change Except.ok (decide _) = _ ↔ _
      rw [Except.ok.injEq, decide_eq_true_eq]
      exact ⟨fun there => ⟨⟨rfl, rfl⟩, there⟩, fun there => there.2⟩

/-- Where directories are kept, a path of a directory is still one. -/
theorem isDirectory_of_keepsDirectories (keeps : KeepsDirectories d d')
    (there : d.isDirectory p = .ok true) : d'.isDirectory p = .ok true := by
  obtain ⟨led, standing⟩ := isDirectory_eq_true.mp there
  rw [isDirectory_eq_true, keeps.place_eq]
  exact ⟨locateFor_of_keepsDirectories keeps led, keeps.directories _ standing⟩

/-- What is read at a place depends on the entry there. -/
theorem read_congr (led : d.locateFor p = .ok l) (led' : d'.locateFor p = .ok l)
    (same : d'.entry? l = d.entry? l) : d'.read p = d.read p := by
  unfold read
  rw [led, led']
  dsimp only [bind, Except.bind]
  rw [same]

/-! ## Trees -/

/-- A disk is a tree: whatever stands below the root stands in a directory. -/
def IsTree (d : Disk) : Prop :=
  ∀ l name, d.entry? (l ++ [name]) ≠ none → d.entry? l = some .directory

/-- Files stand in directories if each entry has a directory above it. -/
theorem isTree_of_entries
    (above : ∀ x ∈ d.entries, d.entry? x.1.dropLast = some .directory) : d.IsTree := by
  intro l name standing
  unfold entry? at standing
  rw [if_neg (by simp)] at standing
  obtain ⟨entry, found⟩ := Option.ne_none_iff_exists'.mp standing
  obtain ⟨before, after, same, -⟩ := List.lookup_eq_some_iff.mp found
  have there := above (l ++ [name], entry) (by rw [same]; exact List.mem_append_cons_self)
  rwa [List.dropLast_concat] at there

/-- A file put in a directory keeps that. -/
theorem IsTree.put (tree : d.IsTree) (there : d.entry? l = some .directory)
    (other : d.entry? (l ++ [name]) ≠ some .directory) (entry : Entry) :
    (d.put (l ++ [name]) entry).IsTree := by
  intro m more standing
  have different : m ≠ l ++ [name] := by
    rintro rfl
    rw [entry?_put_of_ne (by simp)] at standing
    exact other (tree _ _ standing)
  rw [entry?_put_of_ne different]
  by_cases same : m ++ [more] = l ++ [name]
  · rw [(List.append_inj' same rfl).1, there]
  · rw [entry?_put_of_ne same] at standing
    exact tree _ _ standing

/-- Removing a file keeps that every entry stands in a directory. -/
theorem IsTree.erase (tree : d.IsTree) (other : d.entry? l ≠ some .directory) :
    (d.erase l).IsTree := by
  intro m name standing
  have kept : m ++ [name] ≠ l := by
    rintro rfl
    exact standing (entry?_erase_self (ne_nil_of_not_directory other))
  rw [entry?_erase_of_ne kept] at standing
  exact (keepsDirectories_erase other).directories m (tree _ _ standing)

/-- Nothing stands below what is no directory. -/
theorem IsTree.entry?_below (tree : d.IsTree) (other : d.entry? l ≠ some .directory)
    (names : List String) (some_name : names ≠ []) : d.entry? (l ++ names) = none := by
  induction names using List.reverseRecOn with
  | nil => exact absurd rfl some_name
  | append_singleton names name ih =>
    rw [← List.append_assoc]
    by_contra standing
    have above := tree _ _ standing
    cases names with
    | nil => exact other (by rwa [List.append_nil] at above)
    | cons first rest =>
      rw [ih (List.cons_ne_nil _ _)] at above
      cases above

end Disk

end ModelForge
