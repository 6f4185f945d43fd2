import ModelForge.Proofs.Code.Artifacts
import ModelForge.Proofs.Graph.Stored
import ModelForge.Proofs.Pipeline.Outputs

/-! # Files are written whole or not at all

Replacing a file puts its whole new content in place, and where that fails, be it while the content
is written, all files are as before (`ModelForge.Files.Action.changedOnlyAt_of_replaceBy_error`).
The snapshot of a graph is stored in this way, and so is one compiled module after the other: if one
of them fails, those in front of it are complete and nothing has been done to the others
(`ModelForge.Code.stoppedAt_of_writeModules`). All that is left beside whole files are directories
that were missing (`ModelForge.Pipeline.all_or_nothing`). They are made wherever a path leads
through, so that a path with steps back in it may make one at the very place of a file that is to be
written (`ModelForge.Pipeline.artifact_crossed`).
-/

namespace ModelForge

namespace Disk

open Files (Location)

/-- What stands at a place is as before, unless nothing stood there and a path leads through it:
then there may be a directory. -/
def SameUpToDirectory (through : Path) (l : Location) (d d' : Disk) : Prop :=
  d'.entry? l = d.entry? l ∨
    d.Way through l ∧ d.entry? l = none ∧ d'.entry? l = some .directory

/-- The places that the paths of the directories of some files lead through. -/
def WayTo (d : Disk) (files : List (Path × Octets)) (l : Location) : Prop :=
  ∃ file ∈ files, d.Way file.1.parent l

end Disk

open Disk (ChangedOnlyAt SameUpToDirectory)

namespace Code

variable {w w' : World} {directory : Path} {m : CompiledModule} {modules : List CompiledModule}
  {f : Failure} {written : List Path} {d₀ : Disk}

theorem mem_artifactFiles_of_mem (directory : Path) (member : m ∈ modules) :
    (artifactTarget directory m, CompiledModule.artifact m) ∈ artifactFiles modules directory :=
  mem_artifactFiles.mpr ⟨m, member, rfl⟩

/-- Writing modules makes directories on the way to their files and changes these files only. -/
theorem keepsToPlaces_writeModules (d₀ : Disk) (directory : Path) (modules : List CompiledModule) :
    Run.KeepsToPlaces (d₀.WayTo (artifactFiles modules directory))
      (d₀.PlaceOf (artifactFiles modules directory)) d₀ (writeModules directory modules) := by
  refine Step.Preserves.mapM fun m member => ?_
  have file := mem_artifactFiles_of_mem directory member
  refine (Run.keepsToPlaces_files ?_).bind fun _ => Step.preserves_pure _
  exact Files.Action.keepsToPlaces_replaceFile (fun _ way => ⟨_, file, way⟩) ⟨_, file, rfl⟩ _

/-- Modules that were written have changed their own files only. -/
theorem changedOnlyAt_of_writeModules
    (done : Run.perform (writeModules directory modules) w = (.ok written, w')) :
    ChangedOnlyAt (w.disk.WayTo (artifactFiles modules directory))
      (w.disk.PlaceOf (artifactFiles modules directory)) w.disk w'.disk := by
  have within := (keepsToPlaces_writeModules w.disk directory modules w (.refl _ _ _)).1
  rwa [show (writeModules directory modules).run.run w = _ from done] at within

/-- Modules that are written to different places all have their whole new content. -/
theorem reads_of_writeModules
    (apart : (modules.map fun m => w.disk.place (artifactTarget directory m)).Nodup)
    (done : Run.perform (writeModules directory modules) w = (.ok written, w'))
    (member : m ∈ modules) :
    w'.disk.read (artifactTarget directory m) = .ok (CompiledModule.artifact m) := by
  have wrote := wroteFiles_of_writeModules (Run.runsTo_of_perform done)
  have places : ((artifactFiles modules directory).map fun file => w.disk.place file.1).Nodup := by
    unfold artifactFiles
    rwa [List.map_map]
  exact wrote.reads places _ (mem_artifactFiles_of_mem directory member)

/-- A module that cannot be written leaves all files as they were. -/
theorem changedOnlyAt_of_writeModule_error
    (failed : Run.perform (writeModule directory m) w = (.error f, w')) :
    ChangedOnlyAt (w.disk.Way (artifactTarget directory m).parent) (fun _ => False) w.disk
      w'.disk := by
  obtain replaces | ⟨_, _, -, no⟩ := Step.run_bind_eq_error.mp failed
  · obtain ⟨fault, d, ends, -, rfl⟩ := Run.perform_files_eq_error.mp replaces
    exact Files.Action.changedOnlyAt_of_replaceFile_error ends
  · cases no

/-- How the disk is left when writing modules stops at one of them. -/
structure StoppedAt (directory : Path) (before : List CompiledModule) (m : CompiledModule)
    (later : List CompiledModule) (d d' : Disk) : Prop where
  /-- The files in front of it have their whole new content. -/
  complete : ∀ m' ∈ before, d'.read (artifactTarget directory m') = .ok (CompiledModule.artifact m')
  /-- Its own file and those behind it are as before. -/
  unchanged : ∀ m' ∈ m :: later,
    SameUpToDirectory directory (d.place (artifactTarget directory m')) d d'
  /-- They are just as before unless the path of the directory has steps back in it or a module is
  named from the root. -/
  same : ".." ∉ directory.parts → ∀ m' ∈ m :: later, (artifactPath m'.name).isAbsolute = false →
    d'.entry? (d.place (artifactTarget directory m')) =
      d.entry? (d.place (artifactTarget directory m'))
  /-- Missing directories have been made on the way to the files that were tried, and apart from
  the complete ones no file is other than before. -/
  within : ChangedOnlyAt (d.WayTo (artifactFiles (before ++ [m]) directory))
    (d.PlaceOf (artifactFiles before directory)) d d'

/-- If a module cannot be written, those in front of it are complete and the others are spared. -/
theorem stoppedAt_of_writeModules
    (apart : (modules.map fun m => w.disk.place (artifactTarget directory m)).Nodup)
    (failed : Run.perform (writeModules directory modules) w = (.error f, w')) :
    ∃ before m later written w₁, modules = before ++ m :: later ∧
      Run.perform (writeModules directory before) w = (.ok written, w₁) ∧
      Run.perform (writeModule directory m) w₁ = (.error f, w') ∧
      StoppedAt directory before m later w.disk w'.disk := by
  obtain ⟨before, m, later, written, w₁, rfl, done, last⟩ := Step.exists_of_run_mapM_error failed
  refine ⟨before, m, later, written, w₁, rfl, done, last, ?_⟩
  rw [List.map_append, List.nodup_append] at apart
  obtain ⟨apart_before, -, apart_rest⟩ := apart
  have first := changedOnlyAt_of_writeModules done
  have second := changedOnlyAt_of_writeModule_error last
  have within : ChangedOnlyAt (w.disk.WayTo (artifactFiles (before ++ [m]) directory))
      (w.disk.PlaceOf (artifactFiles before directory)) w.disk w'.disk := by
    refine ChangedOnlyAt.trans (first.mono ?_ fun _ there => there)
      (second.mono ?_ fun _ no => no.elim)
    · rintro l ⟨file, member, way⟩
      obtain ⟨m', inside, rfl⟩ := mem_artifactFiles.mp member
      exact ⟨_, mem_artifactFiles_of_mem directory (List.mem_append_left _ inside), way⟩
    · intro l way
      have tried : m ∈ before ++ [m] := List.mem_append_right _ (List.mem_singleton_self m)
      exact ⟨_, mem_artifactFiles_of_mem directory tried, (Disk.way_congr first.keeps.here).mp way⟩
  have unchanged : ∀ m' ∈ m :: later,
      SameUpToDirectory directory (w.disk.place (artifactTarget directory m')) w.disk w'.disk := by
    intro m' member
    have elsewhere : ¬w.disk.PlaceOf (artifactFiles before directory)
        (w.disk.place (artifactTarget directory m')) := by
      rintro ⟨file, inside, same⟩
      obtain ⟨m₁, known, rfl⟩ := mem_artifactFiles.mp inside
      exact apart_rest _ (List.mem_map_of_mem known) _ (List.mem_map_of_mem member) same.symm
    rcases within.entries _ elsewhere with same | ⟨⟨file, inside, way⟩, made⟩
    · exact .inl same
    · obtain ⟨m₁, -, rfl⟩ := mem_artifactFiles.mp inside
      exact .inr ⟨way_of_artifact way, made⟩
  refine ⟨fun m' member => ?_, unchanged, fun plain m' member relative => ?_, within⟩
  · exact second.read_of_read id (reads_of_writeModules apart_before done member)
  · refine (unchanged m' member).resolve_right fun crossed => ?_
    rcases of_way_directory crossed.1 with back | absolute
    · exact plain back
    · rw [relative] at absolute
      cases absolute

end Code

namespace Cache

variable {w w' : World} {g : Graph} {path : Path} {f : Failure}

/-- A snapshot that cannot be stored leaves all files as they were. -/
theorem changedOnlyAt_of_store_error (failed : Run.perform (store g path) w = (.error f, w')) :
    ChangedOnlyAt (w.disk.Way path.parent) (fun _ => False) w.disk w'.disk := by
  rcases store_eq_error.mp failed with ⟨-, rfl⟩ | ⟨text, fault, d, -, ends, -, rfl⟩
  · exact .refl _ _ _
  · exact Files.Action.changedOnlyAt_of_replaceFile_error ends

/-- Storing a snapshot changes its file only. -/
theorem changedOnlyAt_of_store (done : Run.perform (store g path) w = (.ok (), w')) :
    ChangedOnlyAt (w.disk.Way path.parent) (fun l => l = w.disk.place path) w.disk w'.disk := by
  obtain ⟨text, d, -, replaced, rfl⟩ := store_eq_ok.mp done
  have stays : Files.Action.KeepsToPlaces (w.disk.Way path.parent) (fun l => l = w.disk.place path)
      w.disk (Files.Action.replaceFile path (Utf8.encode text)) := by
    refine Files.Action.keepsToPlaces_replaceFile (fun _ way => way) ?_ _
    rfl
  have within := (stays w.disk (.refl _ _ _)).1
  rwa [replaced] at within

end Cache

namespace Pipeline

open Code

/-- Storing a snapshot and writing compiled modules, whose files are at different places, replaces
each file as a whole or not at all. If it fails, the file of the snapshot is as before, and so are
the file of the failing module and those behind it, while those in front of it are complete; apart
from these all files are as before and there are no new ones. If it succeeds, each file has its new
content, and nothing else has changed. In any case at most missing directories have been made that
the paths of the directories of these files lead through; one of them can be at the place of such a
file only where the path of the given directory leads through it. The files of modules are at
different places if their paths differ and none of them is named from the root. -/
theorem all_or_nothing (w : World) (g : Graph) (path directory : Path)
    (modules : List CompiledModule) :
    (∀ f, Cache.textOf w.disk g = .error f →
      Run.perform (Cache.store g path) w = (.error f, w)) ∧
    (∀ f w', Run.perform (Cache.store g path) w = (.error f, w') →
      SameUpToDirectory path.parent (w.disk.place path) w.disk w'.disk ∧
      ChangedOnlyAt (w.disk.Way path.parent) (fun _ => False) w.disk w'.disk) ∧
    (∀ w', Run.perform (Cache.store g path) w = (.ok (), w') →
      (∃ text, Cache.textOf w.disk g = .ok text ∧
        w'.disk.read path = .ok (Utf8.encode text)) ∧
      ChangedOnlyAt (w.disk.Way path.parent) (fun l => l = w.disk.place path) w.disk w'.disk) ∧
    ((∀ m ∈ modules, (artifactPath m.name).isAbsolute = false) →
      (modules.map fun m => artifactPath m.name).Nodup →
      (modules.map fun m => w.disk.place (artifactTarget directory m)).Nodup) ∧
    ((modules.map fun m => w.disk.place (artifactTarget directory m)).Nodup →
      (∀ f w', Run.perform (writeModules directory modules) w = (.error f, w') →
        ∃ before m later written w₁, modules = before ++ m :: later ∧
          Run.perform (writeModules directory before) w = (.ok written, w₁) ∧
          Run.perform (writeModule directory m) w₁ = (.error f, w') ∧
          StoppedAt directory before m later w.disk w'.disk) ∧
      ∀ written w', Run.perform (writeModules directory modules) w = (.ok written, w') →
        (∀ m ∈ modules,
          w'.disk.read (artifactTarget directory m) = .ok (CompiledModule.artifact m)) ∧
        ChangedOnlyAt (w.disk.WayTo (artifactFiles modules directory))
          (w.disk.PlaceOf (artifactFiles modules directory)) w.disk w'.disk) := by
  refine ⟨fun f failed => Cache.store_eq_error.mpr (.inl ⟨failed, rfl⟩), fun f w' failed => ?_,
    fun w' done => ⟨?_, Cache.changedOnlyAt_of_store done⟩, nodup_artifactPlaces w.disk directory,
    fun apart => ⟨fun f w' => stoppedAt_of_writeModules apart, fun written w' done => ?_⟩⟩
  · have within := Cache.changedOnlyAt_of_store_error failed
    exact ⟨within.entries _ id, within⟩
  · obtain ⟨text, d, made, replaced, rfl⟩ := Cache.store_eq_ok.mp done
    exact ⟨text, made, Files.Action.read_of_replaceFile replaced⟩
  · exact ⟨fun m => reads_of_writeModules apart done, changedOnlyAt_of_writeModules done⟩

end Pipeline

namespace Sample

/-- Two modules of different names. -/
def twoModules : List CompiledModule := [⟨"a", none, [1]⟩, ⟨"b", none, [2]⟩]

theorem nodup_twoModules : (twoModules.map fun m => Code.artifactPath m.name).Nodup := by
  decide +kernel

/-- A disk with a directory where the file of the second module is to be written. -/
def barredDisk : Disk :=
  ⟨[], [(["out"], .directory), (["out", "b"], .directory),
    (["out", "b", "__init__.pyc"], .directory)]⟩

/-- A disk without anything. -/
def bareDisk : Disk := ⟨[], []⟩

/-- A path to the directory `out` that leads through the file of the second module. -/
def crossing : Path := ⟨.here, ["out", "b", "__init__.pyc", "..", ".."]⟩

/-- Two modules of different names, one of which is named from the root. -/
def namesakes : List CompiledModule := [⟨"a", none, [1]⟩, ⟨"/out/a", none, [2]⟩]

end Sample

namespace Pipeline

open Code Sample

/-- The first module is complete, and what is in the way of the second one is still there. -/
theorem replaced_until_barred : ∃ f w',
    Run.perform (writeModules (.ofParts ["out"]) twoModules) ⟨barredDisk, .empty⟩ =
      (.error f, w') ∧
    w'.disk.read (artifactTarget (.ofParts ["out"]) ⟨"a", none, [1]⟩) =
      .ok (CompiledModule.artifact ⟨"a", none, [1]⟩) ∧
    w'.disk.entry? ["out", "b", "__init__.pyc"] = some .directory := by
  have relative : ∀ m ∈ twoModules, (artifactPath m.name).isAbsolute = false := by decide +kernel
  have fails : (Run.perform (writeModules (.ofParts ["out"]) twoModules)
      ⟨barredDisk, .empty⟩).1.toOption = none := by decide +kernel
  have first : (Run.perform (writeModule (.ofParts ["out"]) ⟨"a", none, [1]⟩)
      ⟨barredDisk, .empty⟩).1.toOption.isSome = true := by decide +kernel
  obtain ⟨-, -, -, apart, whole⟩ := all_or_nothing ⟨barredDisk, .empty⟩ Sample.graph
    (.ofParts ["c.json"]) (.ofParts ["out"]) twoModules
  obtain ⟨stops, -⟩ := whole (apart relative nodup_twoModules)
  rcases ran : Run.perform (writeModules (.ofParts ["out"]) twoModules) ⟨barredDisk, .empty⟩ with
    ⟨result, w'⟩
  rw [ran] at fails
  cases result with
  | ok written => cases fails
  | error f =>
    obtain ⟨before, m, later, written, w₁, same, done, last, stopped⟩ := stops f w' ran
    cases before with
    | nil =>
      obtain ⟨rfl, -⟩ := List.cons.inj same
      cases done
      rw [last] at first
      cases first
    | cons a before =>
      obtain ⟨rfl, rest⟩ := List.cons.inj same
      cases before with
      | cons b before => simp at rest
      | nil =>
        obtain ⟨rfl, -⟩ := List.cons.inj rest
        refine ⟨f, w', rfl, stopped.complete _ List.mem_cons_self, ?_⟩
        have kept := stopped.same (by decide) _ List.mem_cons_self (by decide +kernel)
        have place : barredDisk.place (artifactTarget (.ofParts ["out"]) ⟨"b", none, [2]⟩) =
            ["out", "b", "__init__.pyc"] := by decide +kernel
        rw [place] at kept
        exact kept.trans (by decide)

/-- A path with steps back may lead through the file of a module: where that is missing, a directory
is made in its place. And a module that is named from the root may have the file of another one,
although their paths differ. -/
theorem artifact_crossed :
    ((twoModules.map fun m => artifactPath m.name).Nodup ∧
      ∃ f w', Run.perform (writeModules crossing twoModules) ⟨bareDisk, .empty⟩ =
        (.error f, w') ∧
      bareDisk.entry? (bareDisk.place (artifactTarget crossing ⟨"b", none, [2]⟩)) = none ∧
      w'.disk.entry? (bareDisk.place (artifactTarget crossing ⟨"b", none, [2]⟩)) =
        some .directory) ∧
    (namesakes.map fun m => artifactPath m.name).Nodup ∧
      ∃ written w', Run.perform (writeModules (.ofString "/out") namesakes) ⟨bareDisk, .empty⟩ =
        (.ok written, w') ∧
      ¬∀ m ∈ namesakes, w'.disk.read (artifactTarget (.ofString "/out") m) =
        .ok (CompiledModule.artifact m) := by
  refine ⟨⟨nodup_twoModules, ?_⟩, by decide +kernel, ?_⟩
  · have fails : (Run.perform (writeModules crossing twoModules)
        ⟨bareDisk, .empty⟩).1.toOption = none ∧
        (Run.perform (writeModules crossing twoModules) ⟨bareDisk, .empty⟩).2.disk.entry?
          (bareDisk.place (artifactTarget crossing ⟨"b", none, [2]⟩)) = some .directory := by
      decide +kernel
    rcases ran : Run.perform (writeModules crossing twoModules) ⟨bareDisk, .empty⟩ with
      ⟨result, w'⟩
    rw [ran] at fails
    cases result with
    | ok written => cases fails.1
    | error f => exact ⟨f, w', rfl, by decide +kernel, fails.2⟩
  · have both : (Run.perform (writeModules (.ofString "/out") namesakes)
        ⟨bareDisk, .empty⟩).1.toOption.isSome = true ∧
        ((Run.perform (writeModules (.ofString "/out") namesakes) ⟨bareDisk, .empty⟩).2.disk.read
          (artifactTarget (.ofString "/out") ⟨"a", none, [1]⟩)).toOption =
            some (CompiledModule.artifact ⟨"/out/a", none, [2]⟩) := by
      decide +kernel
    rcases ran : Run.perform (writeModules (.ofString "/out") namesakes) ⟨bareDisk, .empty⟩ with
      ⟨result, w'⟩
    rw [ran] at both
    cases result with
    | error f => cases both.1
    | ok written =>
      refine ⟨written, w', rfl, fun each => ?_⟩
      have other := both.2
      rw [each _ List.mem_cons_self] at other
      exact absurd other (by decide +kernel)

end Pipeline

end ModelForge
