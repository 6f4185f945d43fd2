import ModelForge.Proofs.Failing
import ModelForge.Proofs.Files.Places

/-! # What an action can change

An action keeps within some places if, from a disk that does, it ends in one, whether it succeeds or
fails (`ModelForge.Files.Action.KeepsToPlaces`). Directories are never lost, missing ones are made
only on the way of a path (`ModelForge.Files.Action.keepsToPlaces_makeDirectories`), and replacing a
file changes nothing but what stands at its place
(`ModelForge.Files.Action.keepsToPlaces_replaceFile`).
-/

namespace ModelForge

namespace Step

variable {ε σ α : Type} {inv : σ → Prop}

/-- A step keeps an invariant if every run of it does. -/
theorem preserves_of_kept {x : ExceptT ε (StateM σ) α} (kept : ∀ s, inv s → inv (x.run.run s).2) :
    Preserves inv (fun _ => True) x :=
  fun s holds => ⟨kept s holds, fun _ _ => trivial⟩

end Step

namespace Disk

open Files

variable {d₀ d d' : Disk} {p : Path} {l : Location} {dirs files dirs' files' : Location → Prop}
  {entry : Entry} {content : Octets}

theorem ne_directory_of_none (free : d.entry? l = none) : d.entry? l ≠ some .directory := by
  rw [free]
  exact fun no => (nomatch no)

/-- At most what stands at the places for files has changed, and missing directories have been made
at the places for directories. -/
structure ChangedOnlyAt (dirs files : Location → Prop) (d d' : Disk) : Prop where
  keeps : KeepsDirectories d d'
  entries : ∀ l, ¬files l →
    d'.entry? l = d.entry? l ∨ dirs l ∧ d.entry? l = none ∧ d'.entry? l = some .directory

theorem ChangedOnlyAt.refl (dirs files : Location → Prop) (d : Disk) :
    ChangedOnlyAt dirs files d d :=
  ⟨.refl d, fun _ _ => .inl rfl⟩

/-- The places may be taken wider. -/
theorem ChangedOnlyAt.mono (within : ChangedOnlyAt dirs files d d') (more : ∀ l, dirs l → dirs' l)
    (others : ∀ l, files l → files' l) : ChangedOnlyAt dirs' files' d d' :=
  ⟨within.keeps, fun l elsewhere => (within.entries l fun inside => elsewhere (others l inside)).imp
    id fun made => ⟨more l made.1, made.2⟩⟩

/-- Files stay as they are, and no new ones appear. -/
theorem ChangedOnlyAt.file_iff (within : ChangedOnlyAt dirs files d d') (elsewhere : ¬files l) :
    d'.entry? l = some (.file content) ↔ d.entry? l = some (.file content) := by
  rcases within.entries l elsewhere with same | ⟨-, none, made⟩
  · rw [same]
  · rw [none, made]
    exact ⟨fun no => (nomatch no), fun no => (nomatch no)⟩

/-- Only what stands on a disk matters. -/
theorem ChangedOnlyAt.congr (within : ChangedOnlyAt dirs files d₀ d) (here : d'.here = d.here)
    (same : ∀ l, d'.entry? l = d.entry? l) : ChangedOnlyAt dirs files d₀ d' where
  keeps := ⟨here.trans within.keeps.here, fun l there =>
    (same l).trans (within.keeps.directories l there)⟩
  entries l elsewhere := by
    rw [same l]
    exact within.entries l elsewhere

/-- Outside the allowed files nothing is taken away. -/
theorem ChangedOnlyAt.none_of_none (within : ChangedOnlyAt dirs files d₀ d) (elsewhere : ¬files l)
    (free : d.entry? l = none) : d₀.entry? l = none := by
  rcases within.entries l elsewhere with same | ⟨-, none, -⟩
  · rw [← same, free]
  · exact none

/-- A missing directory may be made at an allowed place. -/
theorem ChangedOnlyAt.put_directory (within : ChangedOnlyAt dirs files d₀ d) (inside : dirs l)
    (free : d.entry? l = none) : ChangedOnlyAt dirs files d₀ (d.put l .directory) := by
  have other := ne_directory_of_none free
  refine ⟨within.keeps.trans (keepsDirectories_put other _), fun m elsewhere => ?_⟩
  by_cases same : m = l
  · subst same
    exact .inr ⟨inside, within.none_of_none elsewhere free,
      entry?_put_self (ne_nil_of_not_directory other) _⟩
  · rw [entry?_put_of_ne same]
    exact within.entries m elsewhere

/-- A file may be put at an allowed place. -/
theorem ChangedOnlyAt.put (within : ChangedOnlyAt dirs files d₀ d) (inside : files l)
    (other : d.entry? l ≠ some .directory) (entry : Entry) :
    ChangedOnlyAt dirs files d₀ (d.put l entry) := by
  refine ⟨within.keeps.trans (keepsDirectories_put other _), fun m elsewhere => ?_⟩
  have different : m ≠ l := by
    rintro rfl
    exact elsewhere inside
  rw [entry?_put_of_ne different]
  exact within.entries m elsewhere

/-- A file may be removed from an allowed place. -/
theorem ChangedOnlyAt.erase (within : ChangedOnlyAt dirs files d₀ d) (inside : files l)
    (other : d.entry? l ≠ some .directory) : ChangedOnlyAt dirs files d₀ (d.erase l) := by
  refine ⟨within.keeps.trans (keepsDirectories_erase other), fun m elsewhere => ?_⟩
  have different : m ≠ l := by
    rintro rfl
    exact elsewhere inside
  rw [entry?_erase_of_ne different]
  exact within.entries m elsewhere

/-! ## Making directories -/

/-- What it takes to make a directory, and what the disk is then. -/
theorem makeDirectory_eq_ok (made : d.makeDirectory p = .ok d') :
    d.locateFor p = .ok (d.place p) ∧ endsInName p = true ∧ d.entry? (d.place p) = none ∧
      d' = d.put (d.place p) .directory := by
  obtain ⟨l, led, rest⟩ := Result.bind_eq_ok.mp made
  have same := place_of_locate (locateFor_eq_ok.mp led).2
  subst same
  split at rest
  · cases rest
  · next free =>
    cases rest
    obtain ⟨ends, free⟩ := not_or.mp free
    exact ⟨led, by simpa using ends, by simpa using free, rfl⟩

theorem isDirectory_of_makeDirectory (made : d.makeDirectory p = .ok d') :
    d'.isDirectory p = .ok true := by
  obtain ⟨led, -, free, rfl⟩ := makeDirectory_eq_ok made
  have other := ne_directory_of_none free
  have keeps := keepsDirectories_put other .directory
  rw [isDirectory_eq_true, keeps.place_eq]
  exact ⟨locateFor_of_keepsDirectories keeps led, entry?_put_self (ne_nil_of_not_directory other) _⟩

/-- A directory may be made at an allowed place. -/
theorem changedOnlyAt_makeDirectory (within : ChangedOnlyAt dirs files d₀ d)
    (inside : dirs (d₀.place p)) (made : d.makeDirectory p = .ok d') :
    ChangedOnlyAt dirs files d₀ d' := by
  obtain ⟨-, -, free, rfl⟩ := makeDirectory_eq_ok made
  rw [within.keeps.place_eq p] at free ⊢
  exact within.put_directory inside free

/-- Making a directory keeps the files in directories. -/
theorem IsTree.makeDirectory (tree : d.IsTree) (made : d.makeDirectory p = .ok d') :
    d'.IsTree := by
  obtain ⟨led, ends, free, rfl⟩ := makeDirectory_eq_ok made
  obtain ⟨above, name, same, there⟩ := parent_of_locate ends (locateFor_eq_ok.mp led).2
  rw [same] at free ⊢
  exact tree.put there (ne_directory_of_none free) _

/-- A failure is accepted only where the directory is there. -/
theorem isDirectory_of_accept {root : Path.Root} {parts : List String} {fault : Fault}
    (accepted : makeDirectories.accept root d parts fault = none) :
    d.isDirectory ⟨root, parts⟩ = .ok true := by
  unfold makeDirectories.accept at accepted
  split at accepted
  · cases accepted
  · assumption
  · cases accepted
  · cases accepted

variable {root : Path.Root} {parts : List String} {P : Disk → Prop}

/-- What every directory that can be made on the way keeps, making all of them keeps. -/
theorem make_induction (holds : P d) (each : ∀ d', d.makeDirectory ⟨root, parts⟩ = .ok d' → P d') :
    P (makeDirectories.make root d parts).2 := by
  unfold makeDirectories.make
  split
  · next made => exact each _ made
  · exact holds

/-- If no directory could not be made, the last one is there. -/
theorem isDirectory_of_make (made : makeDirectories.make root d parts = (none, d')) :
    d'.isDirectory ⟨root, parts⟩ = .ok true := by
  unfold makeDirectories.make at made
  split at made
  · next d₁ one =>
    cases made
    exact isDirectory_of_makeDirectory one
  · obtain ⟨accepted, same⟩ := Prod.mk.inj made
    rw [← same]
    exact isDirectory_of_accept accepted

/-- What is kept by making one directory on the way of a path is kept by making all that are
missing. -/
theorem makeDirectories_induction (holds : P d)
    (each : ∀ d d' parts, parts <+: p.parts → P d → d.makeDirectory ⟨p.root, parts⟩ = .ok d' →
      P d') : P (d.makeDirectories p.root p.parts).2 := by
  have going (names : List String) (above : names.reverse <+: p.parts) (d : Disk) (holds : P d) :
      P (makeDirectories.go p.root d names).2 := by
    -- The names are taken off from the last one, so the induction follows the way back to the root.
    induction names generalizing d with
    | nil => exact make_induction holds fun d' made => each d d' _ List.nil_prefix holds made
    | cons name names ih =>
      have shorter : names.reverse <+: p.parts := by
        rw [List.reverse_cons] at above
        exact (List.prefix_append _ _).trans above
      unfold makeDirectories.go
      dsimp only
      split
      · next made => exact each _ _ _ above holds made
      · have first := ih shorter d holds
        split
        · next fault d₁ went =>
          rw [went] at first
          exact first
        · next d₁ went =>
          rw [went] at first
          exact make_induction first fun d' made => each d₁ d' _ above first made
      · exact holds
  have whole : p.parts.reverse.reverse <+: p.parts := by simp
  exact going p.parts.reverse whole d holds

/-- Missing directories are made only on the way of the path. -/
theorem changedOnlyAt_makeDirectories (within : ChangedOnlyAt dirs files d₀ d)
    (way : ∀ l, d₀.Way p l → dirs l) :
    ChangedOnlyAt dirs files d₀ (d.makeDirectories p.root p.parts).2 :=
  makeDirectories_induction within fun _ _ parts above within made =>
    changedOnlyAt_makeDirectory within (way _ ⟨parts, above, rfl⟩) made

theorem IsTree.makeDirectories (tree : d.IsTree) :
    (d.makeDirectories p.root p.parts).2.IsTree :=
  makeDirectories_induction tree fun _ _ _ _ tree made => tree.makeDirectory made

/-- Where directories were made, there is one. -/
theorem isDirectory_of_makeDirectories
    (made : d.makeDirectories p.root p.parts = (none, d')) : d'.isDirectory p = .ok true := by
  have going (names : List String) (made : makeDirectories.go p.root d names = (none, d')) :
      d'.isDirectory ⟨p.root, names.reverse⟩ = .ok true := by
    cases names with
    | nil => exact isDirectory_of_make made
    | cons name names =>
      unfold makeDirectories.go at made
      dsimp only at made
      split at made
      · next d₁ one =>
        cases made
        exact isDirectory_of_makeDirectory one
      · split at made
        · cases made
        · exact isDirectory_of_make made
      · obtain ⟨accepted, same⟩ := Prod.mk.inj made
        rw [← same]
        exact isDirectory_of_accept accepted
  have whole := going p.parts.reverse made
  rwa [List.reverse_reverse] at whole

end Disk

namespace Files

namespace Action

open Disk (ChangedOnlyAt)

variable {α : Type} {d₀ d d' d'' : Disk} {p source target : Path} {l : Location}
  {content : Octets} {fault : Fault}
  {dirs files : Location → Prop}

/-- From a disk that keeps within some places an action ends in one. -/
abbrev KeepsToPlaces (dirs files : Location → Prop) (d₀ : Disk) (x : Action α) : Prop :=
  Step.Preserves (ChangedOnlyAt dirs files d₀) (fun _ => True) x

/-- An operation on a disk as a step: a failure leaves the disk alone. -/
theorem run_ofOperation (operation : Disk → Except Fault Disk) (d : Disk) :
    (ofOperation operation).run.run d =
      ((operation d).map fun _ => (), (operation d).toOption.getD d) := by
  unfold ofOperation
  rw [Step.run_bind_of_ok (Step.run_get d)]
  cases operation d <;> rfl

/-- An operation that fails changes nothing. -/
theorem unchanged_of_ofOperation {operation : Disk → Except Fault Disk}
    (failed : (ofOperation operation).run.run d = (.error fault, d')) : d' = d := by
  rw [run_ofOperation] at failed
  cases outcome : operation d with
  | ok d₁ =>
    rw [outcome] at failed
    cases failed
  | error f =>
    rw [outcome] at failed
    cases failed
    rfl

/-- What an operation keeps when it is done is kept in any case. -/
theorem preserves_ofOperation {P : Disk → Prop} {operation : Disk → Except Fault Disk}
    (kept : ∀ d d', P d → operation d = .ok d' → P d') :
    Step.Preserves P (fun _ => True) (ofOperation operation) := by
  refine Step.preserves_of_kept fun d holds => ?_
  rw [run_ofOperation]
  cases outcome : operation d with
  | ok d' => exact kept d d' holds outcome
  | error f => exact holds

theorem run_makeDirectories (p : Path) (d : Disk) : (makeDirectories p).run.run d =
    ((match (d.makeDirectories p.root p.parts).1 with
      | none => .ok ()
      | some f => .error f), (d.makeDirectories p.root p.parts).2) := by
  unfold makeDirectories
  rw [Step.run_bind_of_ok (Step.run_get d)]
  rcases d.makeDirectories p.root p.parts with ⟨result, d'⟩
  cases result <;> rfl

/-- Directories are made on the way of their path only. -/
theorem keepsToPlaces_makeDirectories (way : ∀ l, d₀.Way p l → dirs l) :
    KeepsToPlaces dirs files d₀ (makeDirectories p) := by
  refine Step.preserves_of_kept fun d within => ?_
  rw [run_makeDirectories]
  exact Disk.changedOnlyAt_makeDirectories within way

theorem isDirectory_of_makeDirectories (made : (makeDirectories p).run.run d = (.ok (), d')) :
    d'.isDirectory p = .ok true := by
  rw [run_makeDirectories] at made
  rcases outcome : d.makeDirectories p.root p.parts with ⟨result, d₁⟩
  rw [outcome] at made
  cases result with
  | some f => cases made
  | none =>
    cases made
    exact Disk.isDirectory_of_makeDirectories outcome

theorem run_locate (p : Path) (d : Disk) : (locate p).run.run d = (d.locateFor p, d) := by
  unfold locate
  rw [Step.run_bind_of_ok (Step.run_get d)]
  cases d.locateFor p <;> rfl

/-- Looking a path up changes nothing. -/
theorem preserves_locate {P : Disk → Prop} (p : Path) :
    Step.Preserves P (fun _ => True) (locate p) := by
  refine Step.preserves_of_kept fun d holds => ?_
  rw [run_locate]
  exact holds

/-- Writing changes the file that is written only. -/
theorem keepsToPlaces_write (allowed : files (d₀.place p)) (content : Octets) :
    KeepsToPlaces dirs files d₀ (write p content) := by
  refine preserves_ofOperation fun d d' within written => ?_
  obtain ⟨l, led, other, rfl⟩ := Disk.write_eq_ok written
  rw [Disk.place_of_locate led, within.keeps.place_eq] at other ⊢
  exact within.put allowed other _

/-! ## Replacing a file -/

/-- What it takes to create a file, and what the disk is then. -/
theorem createFile_eq_ok (created : d.createFile p = .ok d') :
    d.locateFor p = .ok (d.place p) ∧ d.entry? (d.place p) = none ∧
      d' = d.put (d.place p) (.file []) := by
  obtain ⟨l, led, rest⟩ := Result.bind_eq_ok.mp created
  have same := Disk.place_of_locate (Disk.locateFor_eq_ok.mp led).2
  subst same
  split at rest
  · cases rest
  · next free =>
    cases rest
    exact ⟨led, free, rfl⟩

theorem removeFile_of_file (led : d.locate p = .ok l) (file : d.entry? l = some (.file content)) :
    d.removeFile p = d.erase l := by
  unfold Disk.removeFile
  rw [led]
  dsimp only
  rw [file]

/-- Where nothing stood there is a file now. -/
structure AddedFile (d : Disk) (l : Location) (d' : Disk) : Prop where
  keeps : Disk.KeepsDirectories d d'
  file : ∃ content, d'.entry? l = some (.file content)
  others : ∀ m, m ≠ l → d'.entry? m = d.entry? m

/-- Putting a file adds it. -/
theorem addedFile_put (free : d.entry? l ≠ some .directory) (content : Octets) :
    AddedFile d l (d.put l (.file content)) :=
  ⟨Disk.keepsDirectories_put free _,
    ⟨content, Disk.entry?_put_self (Disk.ne_nil_of_not_directory free) _⟩,
    fun _ different => Disk.entry?_put_of_ne different _⟩

/-- An added file may be written again. -/
theorem AddedFile.put (extra : AddedFile d l d') (content : Octets) :
    AddedFile d l (d'.put l (.file content)) := by
  obtain ⟨old, file⟩ := extra.file
  have other : d'.entry? l ≠ some .directory := by
    rw [file]
    exact fun no => (nomatch no)
  have again := addedFile_put other content
  exact ⟨extra.keeps.trans again.keeps, again.file,
    fun m different => (again.others m different).trans (extra.others m different)⟩

/-- Nothing is left of an added file that is removed. -/
theorem AddedFile.changedOnlyAt_erase (extra : AddedFile d l d') (free : d.entry? l = none)
    (within : ChangedOnlyAt dirs files d₀ d) : ChangedOnlyAt dirs files d₀ (d'.erase l) := by
  have other := Disk.ne_directory_of_none free
  refine within.congr extra.keeps.here fun m => ?_
  by_cases same : m = l
  · rw [same, Disk.entry?_erase_self (Disk.ne_nil_of_not_directory other), free]
  · rw [Disk.entry?_erase_of_ne same, extra.others m same]

/-- An added file may be written through its path. -/
theorem AddedFile.write {beside : Path} {content : Octets} (place : d.place beside = l)
    (extra : AddedFile d l d') (written : d'.write beside content = .ok d'') :
    AddedFile d l d'' := by
  obtain ⟨m, led, -, rfl⟩ := Disk.write_eq_ok written
  rw [Disk.place_of_locate led, extra.keeps.place_eq, place]
  exact extra.put content

/-- An action that fills the file at a path, and may fail half-way, changes its content only. -/
def FillsOnly (fill : Path → Action Unit) : Prop :=
  ∀ d beside, Step.Preserves (AddedFile d (d.place beside)) (fun _ => True) (fill beside)

/-- Writing only fills the file it is given. -/
theorem fillsOnly_write (content : Octets) : FillsOnly fun beside => write beside content :=
  fun _ _ => preserves_ofOperation fun _ _ extra written => extra.write rfl written

/-- The last part of replacing a file: it is filled beside the target and moved over it, and what
was filled is removed if that fails. -/
def putBeside (target beside : Path) (fill : Path → Action Unit) : Action Unit :=
  tryCatch (do fill beside; move beside target) fun f => do
    removeFile beside
    throw f

/-- Replacing a file whose new content is filled in by some action. -/
def replaceBy (target : Path) (fill : Path → Action Unit) : Action Unit := do
  makeDirectories target.parent
  let l ← locate target.parent
  let beside : Path := ⟨.slash, l ++ [(← get).freshName l (besideName target.name)]⟩
  createFile beside
  putBeside target beside fill

/-- A file is replaced by writing beside it. -/
theorem replaceFile_eq (target : Path) (content : Octets) :
    replaceFile target content = replaceBy target fun beside => write beside content := rfl

section Filling

variable {fill : Path → Action Unit} (fills : FillsOnly fill)

include fills

/-- What is filled beside a target is moved over it, and if that fails nothing is left of it. -/
theorem putBeside_cases {beside : Path} (target : Path)
    (led : d.locate beside = .ok (d.place beside)) (free : d.entry? (d.place beside) = none)
    (extra : AddedFile d (d.place beside) d') :
    ∃ d₂, AddedFile d (d.place beside) d₂ ∧
      ((∃ f, (putBeside target beside fill).run.run d' = (.error f, d₂.erase (d.place beside))) ∨
        ∃ e, (putBeside target beside fill).run.run d' =
            (.ok (), (d₂.erase (d.place beside)).put (d.place target) e) ∧
          Disk.entry? (d₂.erase (d.place beside)) (d.place target) ≠ some .directory) := by
  -- Wherever it fails, the file beside the target is all that is there more.
  have removed (d₂ : Disk) (extra : AddedFile d (d.place beside) d₂) (f : Fault)
      (failed : (do fill beside; move beside target : Action Unit).run.run d' =
        (.error f, d₂)) :
      (putBeside target beside fill).run.run d' = (.error f, d₂.erase (d.place beside)) := by
    obtain ⟨old, file⟩ := extra.file
    unfold putBeside
    rw [Step.run_tryCatch_of_error failed,
      ← removeFile_of_file (Disk.locate_of_keepsDirectories extra.keeps led) file]
    rfl
  have filled := (fills d beside d' extra).1
  rcases wrote : (fill beside).run.run d' with ⟨result, d₁⟩
  rw [wrote] at filled
  refine ⟨d₁, filled, ?_⟩
  cases result with
  | error f => exact .inl ⟨f, removed _ filled f (Step.run_bind_of_error wrote _)⟩
  | ok done =>
    rcases moved : (move beside target).run.run d₁ with ⟨result, d₂⟩
    cases result with
    | error f =>
      have same := unchanged_of_ofOperation moved
      subst same
      exact .inl ⟨f, removed _ filled f ((Step.run_bind_of_ok wrote _).trans moved)⟩
    | ok done =>
      obtain ⟨-, s, t, e, from_beside, to_target, -, other, rfl⟩ :=
        Disk.move_eq_ok (run_ofOperation_eq_ok.mp moved)
      rw [Disk.place_of_locate from_beside, Disk.place_of_locate to_target,
        filled.keeps.place_eq beside, filled.keeps.place_eq target] at moved
      rw [Disk.place_of_locate to_target, filled.keeps.place_eq target] at other
      refine .inr ⟨e, ?_, ?_⟩
      · exact Step.run_tryCatch_of_ok ((Step.run_bind_of_ok wrote _).trans moved) _
      by_cases same : d.place target = d.place beside
      · rw [same, Disk.entry?_erase_self]
        · exact fun no => (nomatch no)
        · exact Disk.ne_nil_of_not_directory (Disk.ne_directory_of_none free)
      · rwa [Disk.entry?_erase_of_ne same]

/-- What is filled beside a target is moved over it or removed. -/
theorem changedOnlyAt_putBeside {beside : Path} (within : ChangedOnlyAt dirs files d₀ d)
    (inside : files (d₀.place target)) (led : d.locate beside = .ok (d.place beside))
    (free : d.entry? (d.place beside) = none) (extra : AddedFile d (d.place beside) d') :
    ChangedOnlyAt dirs files d₀ ((putBeside target beside fill).run.run d').2 := by
  obtain ⟨d₂, more, ⟨f, failed⟩ | ⟨e, done, other⟩⟩ := putBeside_cases fills target led free extra
  · rw [failed]
    exact more.changedOnlyAt_erase free within
  · rw [done]
    rw [within.keeps.place_eq target] at other ⊢
    exact (more.changedOnlyAt_erase free within).put inside other e

/-- If what is filled beside a target cannot be moved over it, nothing has changed. -/
theorem changedOnlyAt_putBeside_of_error {beside : Path} (within : ChangedOnlyAt dirs files d₀ d)
    (led : d.locate beside = .ok (d.place beside)) (free : d.entry? (d.place beside) = none)
    (extra : AddedFile d (d.place beside) d')
    (failed : (putBeside target beside fill).run.run d' = (.error fault, d'')) :
    ChangedOnlyAt dirs files d₀ d'' := by
  obtain ⟨d₂, more, ⟨f, left⟩ | ⟨e, done, -⟩⟩ := putBeside_cases fills target led free extra
  · cases failed.symm.trans left
    exact more.changedOnlyAt_erase free within
  · cases failed.symm.trans done

/-- Replacing a file changes at most what stands at its place. -/
theorem keepsToPlaces_replaceBy (way : ∀ l, d₀.Way target.parent l → dirs l)
    (inside : files (d₀.place target)) : KeepsToPlaces dirs files d₀ (replaceBy target fill) := by
  unfold replaceBy
  refine (keepsToPlaces_makeDirectories way).bind fun _ => ?_
  refine (preserves_locate _).bind fun l => ?_
  refine Step.Preserves.get_bind fun d _ => ?_
  generalize (⟨.slash, l ++ [d.freshName l (besideName target.name)]⟩ : Path) = beside
  refine Step.preserves_of_kept fun d within => ?_
  rcases outcome : (createFile beside).run.run d with ⟨result, d₁⟩
  cases result with
  | error f =>
    rw [Step.run_bind_of_error outcome, unchanged_of_ofOperation outcome]
    exact within
  | ok done =>
    rw [Step.run_bind_of_ok outcome]
    obtain ⟨led, free, rfl⟩ := createFile_eq_ok (run_ofOperation_eq_ok.mp outcome)
    have other := Disk.ne_directory_of_none free
    exact changedOnlyAt_putBeside fills within inside (Disk.locateFor_eq_ok.mp led).2 free
      (addedFile_put other [])

/-- If a file cannot be replaced, wherever that fails, at most missing directories on its way have
been made. -/
theorem changedOnlyAt_of_replaceBy_error
    (failed : (replaceBy target fill).run.run d = (.error fault, d')) :
    ChangedOnlyAt (d.Way target.parent) (fun _ => False) d d' := by
  have made {result : Except Fault Unit} {d₁ : Disk}
      (ran : (makeDirectories target.parent).run.run d = (result, d₁)) :
      ChangedOnlyAt (d.Way target.parent) (fun _ => False) d d₁ := by
    have stays :
        KeepsToPlaces (d.Way target.parent) (fun _ => False) d (makeDirectories target.parent) :=
      keepsToPlaces_makeDirectories fun _ way => way
    have within := (stays d (.refl _ _ d)).1
    rwa [ran] at within
  unfold replaceBy at failed
  obtain failed | ⟨⟨⟩, d₁, ran, failed⟩ := Step.run_bind_eq_error.mp failed
  · exact made failed
  obtain failed | ⟨l, d₂, found, failed⟩ := Step.run_bind_eq_error.mp failed
  · rw [run_locate] at failed
    rw [← (Prod.mk.inj failed).2]
    exact made ran
  rw [run_locate] at found
  rw [← (Prod.mk.inj found).2] at failed
  rw [Step.run_bind_of_ok (Step.run_get d₁)] at failed
  generalize (⟨.slash, l ++ [d₁.freshName l (besideName target.name)]⟩ : Path) = beside at failed
  obtain failed | ⟨⟨⟩, d₂, created, failed⟩ := Step.run_bind_eq_error.mp failed
  · rw [unchanged_of_ofOperation failed]
    exact made ran
  obtain ⟨led, free, rfl⟩ := createFile_eq_ok (run_ofOperation_eq_ok.mp created)
  exact changedOnlyAt_putBeside_of_error fills (made ran) (Disk.locateFor_eq_ok.mp led).2 free
    (addedFile_put (Disk.ne_directory_of_none free) []) failed

end Filling

/-- Replacing a file changes it alone, and makes directories on its way. -/
theorem keepsToPlaces_replaceFile (way : ∀ l, d₀.Way target.parent l → dirs l)
    (inside : files (d₀.place target)) (content : Octets) :
    KeepsToPlaces dirs files d₀ (replaceFile target content) := by
  rw [replaceFile_eq]
  exact keepsToPlaces_replaceBy (fillsOnly_write content) way inside

/-- A file that could not be replaced is as before. -/
theorem changedOnlyAt_of_replaceFile_error
    (failed : (replaceFile target content).run.run d = (.error fault, d')) :
    ChangedOnlyAt (d.Way target.parent) (fun _ => False) d d' := by
  rw [replaceFile_eq] at failed
  exact changedOnlyAt_of_replaceBy_error (fillsOnly_write content) failed

end Action

end Files

end ModelForge
