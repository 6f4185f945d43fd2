import ModelForge.Proofs.Metadata.Writing
import ModelForge.Proofs.Text.RepositoryNames

/-! # A unit that fails leaves the others alone

Each unit of a modular plan has a directory of its own below the destination, named after its
repository. Writing one of them changes nothing in the directories of the others, so the units
before one that fails are complete and those after it are untouched
(`ModelForge.Metadata.publish_isolates`). Only a destination that goes through a later directory and
back can make that directory, where it was missing.
-/

namespace ModelForge

namespace Metadata

open Disk (inside ChangedOnlyAt TreeChangedOnlyAt)

open Files (Location)

open Plan (unitOf)

open Run (RunsTo)

variable {g : Graph} {plan : Plan} {name other : String} {names others : List String}
  {destination : Path} {u : OutputUnit} {type : GenerationType} {selected : List String}
  {w : World} {d d' d₁ : Disk} {l : Location}

/-! ## The directories of repositories -/

/-- No repository is called like a staging directory. -/
theorem ne_stagingName (legal : isRepositoryName name = true) (token : String) :
    name ≠ Files.Action.stagingName token := by
  rintro rfl
  refine head_ne_of_isRepositoryName legal ("metadata-staging-".toList ++ token.toList) ?_
  unfold Files.Action.stagingName
  rw [String.toList_append]
  rfl

/-- No file of a unit is called like a staging directory. -/
theorem ne_stagingName_of_fileName {name : String} (file : name ∈ fileNames) (token : String) :
    name ≠ Files.Action.stagingName token := by
  intro same
  have letters := congrArg (fun name => name.toList.head?) same
  unfold Files.Action.stagingName at letters
  have point : name.toList.head? = some '.' := by
    rw [letters, String.toList_append]
    rfl
  have others : ∀ name ∈ fileNames, name.toList.head? ≠ some '.' := by decide
  exact others name file point

/-- The unit of a repository has a directory of its name. -/
theorem unitDirectory_unitOf (legal : isRepositoryName name = true) (destination : Path) :
    unitDirectory destination (unitOf name) = inside destination name := by
  change (if name.isEmpty = true then destination else destination.child name) = _
  rw [isEmpty_of_isRepositoryName legal, if_neg Bool.false_ne_true, Path.child,
    Path.ofString_of_isRepositoryName legal]
  rfl

/-- The directory of a repository's unit stands in the destination. -/
theorem place_unitDirectory (legal : isRepositoryName name = true) (d : Disk) (destination : Path) :
    d.place (unitDirectory destination (unitOf name)) = d.place destination ++ [name] := by
  rw [unitDirectory_unitOf legal, Disk.place_inside_of_ne (parent_ne_of_isRepositoryName legal)]

/-! ## What the units of repositories change -/

/-- The places for directories: those the destination goes through, and one for each name. -/
def DirectoryPlace (d : Disk) (destination : Path) (names : List String) (l : Location) : Prop :=
  d.Way destination l ∨ ∃ name ∈ names, l = d.place destination ++ [name]

/-- The places for files: those of the three files of each unit. -/
def FilePlace (d : Disk) (destination : Path) (names : List String) (l : Location) : Prop :=
  ∃ name ∈ names, ∃ file ∈ fileNames, l = d.place destination ++ [name] ++ [file]

theorem DirectoryPlace.mono (place : DirectoryPlace d destination names l)
    (more : names ⊆ others) : DirectoryPlace d destination others l :=
  place.imp id fun ⟨name, member, same⟩ => ⟨name, more member, same⟩

theorem FilePlace.mono (place : FilePlace d destination names l) (more : names ⊆ others) :
    FilePlace d destination others l := by
  obtain ⟨name, member, rest⟩ := place
  exact ⟨name, more member, rest⟩

theorem directoryPlace_congr (here : d'.here = d.here) :
    DirectoryPlace d' destination names l ↔ DirectoryPlace d destination names l := by
  unfold DirectoryPlace
  rw [Disk.way_congr here, Disk.place_congr here]

theorem filePlace_congr (here : d'.here = d.here) :
    FilePlace d' destination names l ↔ FilePlace d destination names l := by
  unfold FilePlace
  rw [Disk.place_congr here]

/-- The way of a unit's directory leads through directories that may be made. -/
theorem way_unitDirectory (legal : isRepositoryName name = true) (member : name ∈ names)
    (way : d.Way (unitDirectory destination (unitOf name)) l) :
    DirectoryPlace d destination names l := by
  rw [unitDirectory_unitOf legal] at way
  rcases Disk.way_inside way with above | same
  · exact .inl above
  · rw [Disk.onward_of_ne (parent_ne_of_isRepositoryName legal)] at same
    exact .inr ⟨name, member, same⟩

/-- The files of a unit are at places that may change. -/
theorem filePlace_unitDirectory (legal : isRepositoryName name = true) (member : name ∈ names)
    (file : String) (known : file ∈ fileNames) :
    FilePlace d destination names
      (d.place (unitDirectory destination (unitOf name)) ++ [file]) := by
  rw [place_unitDirectory legal]
  exact ⟨name, member, file, known, rfl⟩

/-- Writing a unit changes its own files only. -/
theorem treeChangedOnlyAt_of_writeUnit (tree : d.IsTree) (legal : isRepositoryName name = true) :
    TreeChangedOnlyAt (DirectoryPlace d destination [name]) (FilePlace d destination [name]) d
      (writeUnit g destination (unitOf name) d).2 :=
  have member := List.mem_singleton_self name
  treeChangedOnlyAt_writeUnit tree (fun _ => .inl) (fun _ way => way_unitDirectory legal member way)
    (filePlace_unitDirectory legal member)

/-- Writing many units changes their own files only. -/
theorem treeChangedOnlyAt_of_written (tree : d.IsTree)
    (legal : ∀ name ∈ names, isRepositoryName name = true)
    (written : Written g destination d (names.map unitOf) d') :
    TreeChangedOnlyAt (DirectoryPlace d destination names) (FilePlace d destination names) d
      d' := by
  refine treeChangedOnlyAt_written written tree (fun _ => .inl) ?_ ?_
  · intro u inside l way
    obtain ⟨name, member, rfl⟩ := List.mem_map.mp inside
    exact way_unitDirectory (legal name member) member way
  · intro u inside file known
    obtain ⟨name, member, rfl⟩ := List.mem_map.mp inside
    exact filePlace_unitDirectory (legal name member) member file known

/-- What stands at a place has not changed, unless the destination goes through it and back: then a
directory that was missing may have been made. -/
def Untouched (destination : Path) (d d' : Disk) (l : Location) : Prop :=
  d'.entry? l = d.entry? l ∨
    ".." ∈ destination.parts ∧ d.Way destination l ∧ d.entry? l = none ∧
      d'.entry? l = some .directory

/-- Nothing below a directory of another name is such a place. -/
theorem not_filePlace (new : other ∉ names) (below : d.place destination ++ [other] <+: l) :
    ¬FilePlace d destination names l := by
  rintro ⟨name, member, file, -, rfl⟩
  rw [List.append_assoc, List.prefix_append_right_inj, List.singleton_append,
    List.cons_prefix_cons] at below
  exact new (below.1 ▸ member)

/-- Nothing changes at or below a name that is not written to. -/
theorem untouched_of_treeChangedOnlyAt
    (changed :
      TreeChangedOnlyAt (DirectoryPlace d destination names) (FilePlace d destination names) d d')
    (new : other ∉ names) (below : d.place destination ++ [other] <+: l) :
    Untouched destination d d' l := by
  rcases changed.within.entries l (not_filePlace new below) with
    same | ⟨way | ⟨name, member, same⟩, made⟩
  · exact .inl same
  · refine .inr ⟨?_, way, made⟩
    by_contra plain
    have long := (below.trans (Disk.prefix_of_way plain way)).length_le
    rw [List.length_append, List.length_singleton] at long
    omega
  · rw [same, List.prefix_append_right_inj, List.cons_prefix_cons] at below
    exact absurd (below.1 ▸ member) new

/-! ## Units that are read back -/

/-- A unit that was written is stored. -/
theorem stored_of_writeUnit (tree : d.IsTree) (legal : isRepositoryName name = true)
    (written : writeUnit g destination (unitOf name) d = (.ok (), d')) :
    ∃ files, serialize g (unitOf name) = .ok files ∧
      Stored d' (unitDirectory destination (unitOf name)) files := by
  unfold writeUnit at written
  cases serialized : serialize g (unitOf name) with
  | error f =>
    rw [serialized] at written
    cases written
  | ok files =>
    rw [serialized, unitDirectory_unitOf legal] at written
    rcases published : (Files.Action.publish destination (inside destination name)
      files.inOrder).run.run d with ⟨result, d₁⟩
    dsimp only at written
    rw [published] at written
    cases result with
    | error f => cases written
    | ok done =>
      cases written
      rw [unitDirectory_unitOf legal]
      exact ⟨files, rfl, Files.Action.read_of_publish tree (named_inOrder files)
        (parent_ne_of_isRepositoryName legal) (ne_stagingName legal) published⟩

/-- The unit of the whole graph is stored once it was written. -/
theorem stored_of_writeUnit_root (tree : d.IsTree) (whole : u.repository = none)
    (written : writeUnit g destination u d = (.ok (), d')) :
    ∃ files, serialize g u = .ok files ∧ Stored d' (unitDirectory destination u) files := by
  have root : unitDirectory destination u = destination := by
    unfold unitDirectory
    rw [whole]
  unfold writeUnit at written
  rw [root] at written ⊢
  cases serialized : serialize g u with
  | error f =>
    rw [serialized] at written
    cases written
  | ok files =>
    rw [serialized] at written
    rcases published : (Files.Action.publish destination destination
      files.inOrder).run.run d with ⟨result, d₁⟩
    dsimp only at written
    rw [published] at written
    cases result with
    | error f => cases written
    | ok done =>
      cases written
      exact ⟨files, rfl, Files.Action.read_of_publish_root tree (named_inOrder files)
        (fun f member => ne_stagingName_of_fileName (name_mem_fileNames member)) published⟩

/-- Writing other units leaves a unit as it is. -/
theorem stored_of_treeChangedOnlyAt {files : UnitFiles} (legal : isRepositoryName name = true)
    (stored : Stored d (unitDirectory destination (unitOf name)) files)
    (changed :
      TreeChangedOnlyAt (DirectoryPlace d destination names) (FilePlace d destination names) d d')
    (new : name ∉ names) : Stored d' (unitDirectory destination (unitOf name)) files := by
  refine stored.of_changedOnlyAt changed.within fun file _ => ?_
  rw [place_unitDirectory legal]
  exact not_filePlace new (List.prefix_append _ _)

/-- Units of different names are all stored. -/
theorem stored_of_written (tree : d.IsTree) (legal : ∀ name ∈ names, isRepositoryName name = true)
    (distinct : names.Nodup) (written : Written g destination d (names.map unitOf) d') :
    ∀ name ∈ names, ∃ files, serialize g (unitOf name) = .ok files ∧
      Stored d' (unitDirectory destination (unitOf name)) files := by
  induction names generalizing d with
  | nil => exact fun _ none => (nomatch none)
  | cons name names ih =>
    obtain ⟨first, others⟩ := List.forall_mem_cons.mp legal
    obtain ⟨new, distinct⟩ := List.nodup_cons.mp distinct
    cases written with
    | @more _ d₁ _ _ _ one rest =>
      have changed : TreeChangedOnlyAt _ _ d (writeUnit g destination (unitOf name) d).2 :=
        treeChangedOnlyAt_of_writeUnit tree first
      rw [one] at changed
      obtain ⟨files, serialized, stored⟩ := stored_of_writeUnit tree first one
      have later := treeChangedOnlyAt_of_written changed.tree others rest
      exact List.forall_mem_cons.mpr
        ⟨⟨files, serialized, stored_of_treeChangedOnlyAt first stored later new⟩,
          ih changed.tree others distinct rest⟩

/-- After the units of a plan are published, all of them are read back. -/
theorem stored_of_publish (built : Plan.build type selected = .ok plan) (distinct : selected.Nodup)
    (named : ∀ name ∈ selected, isRepositoryName name = true) (tree : d.IsTree) {units : List Path}
    (leads : RunsTo (publish g plan destination) d (.ok units) d') :
    ∀ u ∈ plan.units, ∃ files, serialize g u = .ok files ∧
      Stored d' (unitDirectory destination u) files := by
  obtain ⟨l, l', ran⟩ := leads
  have written : Written g destination d plan.units d' := by
    rcases publish_cases g plan destination ⟨d, l⟩ with
      ⟨w, done, written⟩ | ⟨_, _, _, _, _, _, _, _, _, failed⟩
    · cases done.symm.trans ran
      exact written
    · cases failed.symm.trans ran
  rw [Plan.units_of_build built] at written ⊢
  cases type with
  | monolithic =>
    cases written with
    | more one rest =>
      cases rest
      exact List.forall_mem_singleton.mpr (stored_of_writeUnit_root tree rfl one)
  | modular =>
    intro u member
    obtain ⟨name, inside, rfl⟩ := List.mem_map.mp member
    exact stored_of_written tree named distinct written name inside

/-! ## A unit that fails -/

/-- The first move of a unit is not done. -/
def Unmoved (g : Graph) (destination : Path) (u : OutputUnit) (d : Disk) : Prop :=
  ∀ files, serialize g u = .ok files → ∃ fault d', (Files.Action.publishing destination
    (unitDirectory destination u) files.inOrder 1).run.run d = (.error fault, d')

/-- If no file was moved, no file has changed. -/
theorem treeChangedOnlyAt_of_unmoved (tree : d.IsTree) (legal : isRepositoryName name = true)
    (unmoved : Unmoved g destination (unitOf name) d) :
    TreeChangedOnlyAt (DirectoryPlace d destination [name]) (fun _ => False) d
      (writeUnit g destination (unitOf name) d).2 := by
  unfold writeUnit
  cases serialized : serialize g (unitOf name) with
  | error f => exact .refl tree
  | ok files =>
    obtain ⟨fault, d₁, cut⟩ := unmoved files serialized
    have way (l : Location) (inside : d.Way (unitDirectory destination (unitOf name)) l) :
        DirectoryPlace d destination [name] l :=
      way_unitDirectory legal (List.mem_singleton_self name) inside
    obtain ⟨d₂, published, changed⟩ := Files.Action.treeChangedOnlyAt_publish_of_unmoved tree
      (named_inOrder files) (fun _ => .inl) way cut
    dsimp only
    rw [published]
    exact changed

/-- What holds after a unit has failed: the earlier ones are complete, the later ones are untouched,
no staging directory is left, and the failing one has its old files if nothing was moved. -/
structure Isolated (g : Graph) (destination : Path) (d : Disk) (before : List OutputUnit)
    (u : OutputUnit) (after : List OutputUnit) (f : Failure) (d' : Disk) : Prop where
  earlier : ∀ v ∈ before, ∃ files, serialize g v = .ok files ∧
    Stored d' (unitDirectory destination v) files
  later : ∀ v ∈ after, ∀ l, d.place (unitDirectory destination v) <+: l →
    Untouched destination d d' l
  staging : ∀ token l, d.place destination ++ [Files.Action.stagingName token] <+: l →
    Untouched destination d d' l
  failing : ∃ d₁, Written g destination d before d₁ ∧
    writeUnit g destination u d₁ = (.error f, d') ∧
    (Unmoved g destination u d₁ → ∀ l content, d.place (unitDirectory destination u) <+: l →
      (d'.entry? l = some (.file content) ↔ d.entry? l = some (.file content)))

/-- A unit that fails leaves the units before it stored and those behind it alone. -/
theorem isolated_of_failed {before after : List String} {f : Failure} (tree : d.IsTree)
    (legal : ∀ n ∈ before ++ name :: after, isRepositoryName n = true)
    (distinct : (before ++ name :: after).Nodup)
    (written : Written g destination d (before.map unitOf) d₁)
    (failed : writeUnit g destination (unitOf name) d₁ = (.error f, d')) :
    Isolated g destination d (before.map unitOf) (unitOf name) (after.map unitOf) f d' := by
  obtain ⟨legalBefore, legalRest⟩ := List.forall_mem_append.mp legal
  obtain ⟨legalName, legalAfter⟩ := List.forall_mem_cons.mp legalRest
  obtain ⟨distinctBefore, distinctRest, apart⟩ := List.nodup_append.mp distinct
  have new : name ∉ before := fun member => apart name member name List.mem_cons_self rfl
  have first := treeChangedOnlyAt_of_written tree legalBefore written
  have here := first.within.keeps.here
  have second : TreeChangedOnlyAt _ _ d₁ (writeUnit g destination (unitOf name) d₁).2 :=
    treeChangedOnlyAt_of_writeUnit first.tree legalName
  rw [failed] at second
  have both : TreeChangedOnlyAt (DirectoryPlace d destination (before ++ [name]))
      (FilePlace d destination (before ++ [name])) d d' := by
    refine ⟨(first.within.mono ?_ ?_).trans (second.within.mono ?_ ?_), second.tree⟩
    · exact fun l place => place.mono (List.subset_append_left _ _)
    · exact fun l place => place.mono (List.subset_append_left _ _)
    · exact fun l place => ((directoryPlace_congr here).mp place).mono
        (List.subset_append_right _ _)
    · exact fun l place => ((filePlace_congr here).mp place).mono (List.subset_append_right _ _)
  have missing {other : String} (member : other ∈ after) : other ∉ before ++ [name] := by
    intro inside
    rcases List.mem_append.mp inside with earlier | own
    · exact apart other earlier other (List.mem_cons_of_mem _ member) rfl
    · rw [List.mem_singleton.mp own] at member
      exact (List.nodup_cons.mp distinctRest).1 member
  refine ⟨?_, ?_, ?_, d₁, written, failed, fun unmoved l content below => ?_⟩
  · intro v member
    obtain ⟨n, inside, rfl⟩ := List.mem_map.mp member
    obtain ⟨files, serialized, stored⟩ :=
      stored_of_written tree legalBefore distinctBefore written n inside
    refine ⟨files, serialized, stored_of_treeChangedOnlyAt (legalBefore n inside) stored second ?_⟩
    exact fun same => new (List.mem_singleton.mp same ▸ inside)
  · intro v member l below
    obtain ⟨n, inside, rfl⟩ := List.mem_map.mp member
    rw [place_unitDirectory (legalAfter n inside)] at below
    exact untouched_of_treeChangedOnlyAt both (missing inside) below
  · intro token l below
    refine untouched_of_treeChangedOnlyAt both (fun member => ?_) below
    have named : isRepositoryName (Files.Action.stagingName token) = true := by
      refine legal _ ?_
      rcases List.mem_append.mp member with earlier | own
      · exact List.mem_append_left _ earlier
      · exact List.mem_append_right _ (List.mem_cons.mpr (.inl (List.mem_singleton.mp own)))
    exact ne_stagingName named token rfl
  · have still := treeChangedOnlyAt_of_unmoved first.tree legalName unmoved
    rw [failed] at still
    rw [place_unitDirectory legalName] at below
    exact (still.within.file_iff id).trans (first.within.file_iff (not_filePlace new below))

/-- A run over the units of repositories writes all of them, or it fails as the first unit that
fails and leaves the others alone. -/
theorem publish_isolates (built : Plan.build .modular names = .ok plan) (distinct : names.Nodup)
    (legal : ∀ n ∈ names, isRepositoryName n = true) (tree : w.disk.IsTree) (g : Graph)
    (destination : Path) :
    (∃ w', Run.perform (publish g plan destination) w =
        (.ok (plan.units.map (unitDirectory destination)), w') ∧
      ∀ u ∈ plan.units, ∃ files, serialize g u = .ok files ∧
        Stored w'.disk (unitDirectory destination u) files) ∨
    ∃ before u after f w', plan.units = before ++ u :: after ∧
      Run.perform (publish g plan destination) w = (.error (reported u f), w') ∧
      Isolated g destination w.disk before u after f w'.disk := by
  have units : plan.units = names.map unitOf := Plan.units_of_build built
  rcases publish_cases g plan destination w with
    ⟨w', ran, written⟩ | ⟨before, u, after, f, d₁, w', same, written, failed, ran⟩
  · rw [units] at written
    refine .inl ⟨w', ran, fun u member => ?_⟩
    rw [units] at member
    obtain ⟨n, inside, rfl⟩ := List.mem_map.mp member
    exact stored_of_written tree legal distinct written n inside
  · refine .inr ⟨before, u, after, f, w', same, ran, ?_⟩
    rw [units] at same
    obtain ⟨first, rest, rfl, rfl, others⟩ := List.map_eq_append_iff.mp same
    obtain ⟨n, last, rfl, rfl, rfl⟩ := List.map_eq_cons_iff.mp others
    exact isolated_of_failed tree legal distinct written failed

end Metadata

namespace Sample

open Plan (unitOf)

/-- A disk with a file where the unit of the core repository is to be written. -/
def blockedDisk : Disk := ⟨[], [(["out"], .directory), (["out", "platform"], .file [])]⟩

/-- The blocked disk is one of files in directories. -/
theorem isTree_blockedDisk : blockedDisk.IsTree := Disk.isTree_of_entries (by decide)

/-- A path to the directory `out` that goes through the directory of a unit. -/
def detour : Path := ⟨.here, ["out", "q", ".."]⟩

/-- A path with steps back makes a directory although nothing is written. -/
theorem writeUnit_detour :
    (Metadata.writeUnit graph detour (unitOf "platform") blockedDisk).1.toOption = none ∧
      Disk.entry? (Metadata.writeUnit graph detour (unitOf "platform") blockedDisk).2
        ["out", "q"] = some .directory := by
  decide +kernel

end Sample

namespace Metadata

open Plan (unitOf)

/-- The unit of the core repository fails, and the one written before it is complete. -/
theorem publish_blocked_sample : ∃ f w', Run.perform (publish Sample.graph
      ⟨.modular, [unitOf "q", unitOf "platform"]⟩ (.ofParts ["out"])) ⟨Sample.blockedDisk, .empty⟩ =
        (.error (reported (unitOf "platform") f), w') ∧
    ∃ files, serialize Sample.graph (unitOf "q") = .ok files ∧
      Stored w'.disk (unitDirectory (.ofParts ["out"]) (unitOf "q")) files := by
  have built : Plan.build .modular ["q", "platform"] =
      .ok ⟨.modular, [unitOf "q", unitOf "platform"]⟩ := rfl
  have fails : (Run.perform (publish Sample.graph
      ⟨.modular, [unitOf "q", unitOf "platform"]⟩ (.ofParts ["out"]))
        ⟨Sample.blockedDisk, .empty⟩).1.toOption = none := by
    decide +kernel
  have first : (writeUnit Sample.graph (.ofParts ["out"]) (unitOf "q")
      Sample.blockedDisk).1.toOption = some () := by
    decide +kernel
  have tree : (World.mk Sample.blockedDisk .empty).disk.IsTree := Sample.isTree_blockedDisk
  rcases publish_isolates built (by decide) (by decide) tree Sample.graph
    (.ofParts ["out"]) with
    ⟨w', ran, -⟩ | ⟨before, u, after, f, w', same, ran, isolated⟩
  · rw [ran] at fails
    cases fails
  · cases before with
    | nil =>
      obtain ⟨rfl, -⟩ := List.cons.inj same
      obtain ⟨d₁, written, failed, -⟩ := isolated.failing
      cases written
      rw [failed] at first
      cases first
    | cons v before =>
      obtain ⟨rfl, rest⟩ := List.cons.inj same
      cases before with
      | nil =>
        obtain ⟨rfl, -⟩ := List.cons.inj rest
        exact ⟨f, w', ran, isolated.earlier _ List.mem_cons_self⟩
      | cons _ _ => simp at rest

/-- A destination that goes through the directory of a later unit and back makes that directory,
although the run fails at an earlier unit. -/
theorem later_directory_made :
    Sample.graph.isReady = true ∧ ["platform", "q"].Nodup ∧
    (∀ n ∈ ["platform", "q"], isRepositoryName n = true) ∧
    Plan.build .modular ["platform", "q"] =
      .ok ⟨.modular, [unitOf "platform", unitOf "q"]⟩ ∧
    Sample.blockedDisk.entry?
      (Sample.blockedDisk.place (unitDirectory Sample.detour (unitOf "q"))) = none ∧
    ∃ f w', Run.perform (publish Sample.graph ⟨.modular, [unitOf "platform", unitOf "q"]⟩
        Sample.detour) ⟨Sample.blockedDisk, .empty⟩ =
          (.error (reported (unitOf "platform") f), w') ∧
      w'.disk.entry? (Sample.blockedDisk.place (unitDirectory Sample.detour (unitOf "q"))) =
        some .directory := by
  refine ⟨rfl, by decide, by decide, rfl, by decide, ?_⟩
  obtain ⟨fails, made⟩ := Sample.writeUnit_detour
  have place : Sample.blockedDisk.place (unitDirectory Sample.detour (unitOf "q")) = ["out", "q"] :=
    by decide
  rw [place]
  rcases publish_cases Sample.graph ⟨.modular, [unitOf "platform", unitOf "q"]⟩ Sample.detour
    ⟨Sample.blockedDisk, .empty⟩ with
    ⟨w', ran, written⟩ | ⟨before, u, after, f, d₁, w', same, written, failed, ran⟩
  · cases written with
    | more first _ =>
      rw [first] at fails
      cases fails
  · cases before with
    | nil =>
      obtain ⟨rfl, -⟩ := List.cons.inj same
      cases written
      rw [failed] at made
      exact ⟨f, w', ran, made⟩
    | cons v before =>
      obtain ⟨rfl, -⟩ := List.cons.inj same
      cases written with
      | more first _ =>
        rw [first] at fails
        cases fails

end Metadata

end ModelForge
