import ModelForge.Metadata.Publish
import ModelForge.Proofs.Files.Publish
import ModelForge.Proofs.Metadata.RoundTrip
import ModelForge.Proofs.Plan.Units
import ModelForge.Proofs.Run

/-! # What writing units does to a disk

The units of a plan are written one after the other up to the first that fails, and a run gives the
directories of all of them or the failure of that one (`ModelForge.Metadata.publish_cases`). Each
unit that has been written is read back from its directory as long as no other one is written there
(`ModelForge.Metadata.Stored.of_changedOnlyAt`).
-/

namespace ModelForge

namespace Metadata

open Disk (inside ChangedOnlyAt TreeChangedOnlyAt)

open Files (Location)

variable {g : Graph} {u : OutputUnit} {units : List OutputUnit} {destination : Path} {w : World}
  {d d' : Disk} {unit : Path} {files : UnitFiles} {f : Failure}
  {dirs places : Location → Prop}

/-- What a failure to write a unit is reported as. -/
def reported (u : OutputUnit) (f : Failure) : Failure :=
  if isUnitFailure f then .serialization u.name (some f.message) (some f) else f

/-- Writing a unit as far as the disk is concerned. -/
def writeUnit (g : Graph) (destination : Path) (u : OutputUnit) (d : Disk) :
    Except Failure Unit × Disk :=
  match serialize g u with
  | .error f => (.error f, d)
  | .ok files =>
    let run := (Files.Action.publish destination (unitDirectory destination u)
      files.inOrder).run.run d
    (run.1.mapError Failure.file, run.2)

/-- Publishing a unit writes it and changes nothing but the disk. -/
theorem run_publishUnit (g : Graph) (u : OutputUnit) (destination : Path) (w : World) :
    (publishUnit g u (unitDirectory destination u) destination).run.run w =
      ((writeUnit g destination u w.disk).1,
        { w with disk := (writeUnit g destination u w.disk).2 }) := by
  unfold publishUnit writeUnit
  cases serialize g u with
  | error f => rfl
  | ok files => exact (Step.run_bind_of_ok rfl _).trans (Run.run_files _ w)

/-- Failures of publishing a unit are reported with its name. -/
theorem run_publishNamed (g : Graph) (u : OutputUnit) (destination : Path) (w : World) :
    (publishNamed g u destination).run.run w =
      ((writeUnit g destination u w.disk).1.mapError (reported u),
        { w with disk := (writeUnit g destination u w.disk).2 }) := by
  have unit := run_publishUnit g u destination w
  unfold publishNamed
  cases result : (writeUnit g destination u w.disk).1 with
  | ok done =>
    rw [result] at unit
    exact Step.run_tryCatch_of_ok unit _
  | error f =>
    rw [result] at unit
    rw [Step.run_tryCatch_of_error unit]
    unfold reported
    by_cases reports : isUnitFailure f = true
    · rw [if_pos reports]
      simp only [Except.mapError, reports, if_true]
      rfl
    · rw [if_neg reports]
      simp only [Except.mapError, reports]
      rfl

/-- A step of a run writes its unit; what else it does concerns the log. -/
theorem run_publishStep (g : Graph) (modular : Bool) (destination : Path) (u : OutputUnit)
    (w : World) : ∃ l, (publishStep g modular destination u).run.run w =
      (((writeUnit g destination u w.disk).1.mapError (reported u)).map
        fun _ => unitDirectory destination u, ⟨(writeUnit g destination u w.disk).2, l⟩) := by
  unfold publishStep
  cases modular with
  | true =>
    have begun := Run.run_log (Log.beginStep (stepName ++ " for " ++ u.name)) w
    have named := run_publishNamed g u destination
      { w with log := ((Log.beginStep (stepName ++ " for " ++ u.name)).run w.log).2 }
    dsimp only at named
    cases result : (writeUnit g destination u w.disk).1 with
    | ok done =>
      rw [result] at named
      exact ⟨_, (Step.run_bind_of_ok begun _).trans (Step.run_bind_of_ok named _)⟩
    | error f =>
      rw [result] at named
      exact ⟨_, (Step.run_bind_of_ok begun _).trans (Step.run_bind_of_error named _)⟩
  | false =>
    have named := run_publishNamed g u destination w
    cases result : (writeUnit g destination u w.disk).1 with
    | ok done =>
      rw [result] at named
      exact ⟨_, Step.run_bind_of_ok named _⟩
    | error f =>
      rw [result] at named
      exact ⟨_, Step.run_bind_of_error named _⟩

/-! ## The units of a run -/

/-- All of some units have been written, one after the other. -/
inductive Written (g : Graph) (destination : Path) : Disk → List OutputUnit → Disk → Prop where
  | none (d : Disk) : Written g destination d [] d
  | more {d d₁ d' : Disk} {u : OutputUnit} {units : List OutputUnit}
      (first : writeUnit g destination u d = (.ok (), d₁))
      (others : Written g destination d₁ units d') : Written g destination d (u :: units) d'

/-- The steps of some units: all are written, or the first that fails ends the run. -/
theorem mapM_publishStep_cases (g : Graph) (modular : Bool) (destination : Path)
    (units : List OutputUnit) (w : World) :
    (∃ w', (units.mapM (publishStep g modular destination)).run.run w =
        (.ok (units.map (unitDirectory destination)), w') ∧
      Written g destination w.disk units w'.disk) ∨
    ∃ before u after f d₁ w', units = before ++ u :: after ∧
      Written g destination w.disk before d₁ ∧
      writeUnit g destination u d₁ = (.error f, w'.disk) ∧
      (units.mapM (publishStep g modular destination)).run.run w =
        (.error (reported u f), w') := by
  induction units generalizing w with
  | nil => exact .inl ⟨w, rfl, .none _⟩
  | cons u units ih =>
    obtain ⟨l, step⟩ := run_publishStep g modular destination u w
    rw [List.mapM_cons]
    rcases wrote : writeUnit g destination u w.disk with ⟨result, d₁⟩
    rw [wrote] at step
    cases result with
    | error f =>
      exact .inr ⟨[], u, units, f, w.disk, ⟨d₁, l⟩, rfl, .none _, wrote,
        Step.run_bind_of_error step _⟩
    | ok done =>
      have head := Step.run_bind_of_ok step fun directory => do
        return directory :: (← units.mapM (publishStep g modular destination))
      rw [head]
      rcases ih ⟨d₁, l⟩ with ⟨w', rest, others⟩ |
        ⟨before, v, after, f, d₂, w', same, others, failed, rest⟩
      · exact .inl ⟨w', Step.run_bind_of_ok rest _, .more wrote others⟩
      · refine .inr ⟨u :: before, v, after, f, d₂, w', ?_, .more wrote others, failed,
          Step.run_bind_of_error rest _⟩
        rw [same, List.cons_append]

/-- A run writes all units and gives their directories, or it fails as the first unit that fails. -/
theorem publish_cases (g : Graph) (plan : Plan) (destination : Path) (w : World) :
    (∃ w', Run.perform (publish g plan destination) w =
        (.ok (plan.units.map (unitDirectory destination)), w') ∧
      Written g destination w.disk plan.units w'.disk) ∨
    ∃ before u after f d₁ w', plan.units = before ++ u :: after ∧
      Written g destination w.disk before d₁ ∧
      writeUnit g destination u d₁ = (.error f, w'.disk) ∧
      Run.perform (publish g plan destination) w = (.error (reported u f), w') := by
  have begun := Run.run_log (Log.beginStep stepName) w
  unfold Run.perform publish
  rw [Step.run_bind_of_ok begun]
  rcases mapM_publishStep_cases g plan.isModular destination plan.units
      { w with log := ((Log.beginStep stepName).run w.log).2 } with
    ⟨w', steps, written⟩ | ⟨before, u, after, f, d₁, w', same, written, failed, steps⟩
  · rw [Step.run_bind_of_ok steps]
    exact .inl ⟨_, Step.run_bind_of_ok (Run.run_log _ w') _, written⟩
  · rw [Step.run_bind_of_error steps]
    exact .inr ⟨before, u, after, f, d₁, w', same, written, failed, rfl⟩

/-! ## What is changed -/

/-- The names of the files of a unit. -/
def fileNames : List String := [UnitFiles.stringsName, UnitFiles.objectsName, UnitFiles.indexName]

theorem ne_parent_of_fileName {name : String} (file : name ∈ fileNames) : name ≠ ".." := by
  revert name
  decide

/-- The files of a unit have proper names. -/
theorem named_inOrder (files : UnitFiles) : Files.Action.NamedProperly files.inOrder :=
  ⟨(by decide : fileNames.Nodup), fun f member => ne_parent_of_fileName
    (show f.1 ∈ files.inOrder.map Prod.fst from List.mem_map_of_mem member)⟩

theorem name_mem_fileNames {files : UnitFiles} {f : String × Octets} (member : f ∈ files.inOrder) :
    f.1 ∈ fileNames := List.mem_map_of_mem member

/-- Writing a unit changes at most its three files and makes at most directories on two ways. -/
theorem treeChangedOnlyAt_writeUnit (tree : d.IsTree) (roots : ∀ l, d.Way destination l → dirs l)
    (way : ∀ l, d.Way (unitDirectory destination u) l → dirs l)
    (allowed : ∀ name ∈ fileNames, places (d.place (unitDirectory destination u) ++ [name])) :
    TreeChangedOnlyAt dirs places d (writeUnit g destination u d).2 := by
  unfold writeUnit
  cases serialize g u with
  | error f => exact .refl tree
  | ok files =>
    exact Files.Action.treeChangedOnlyAt_publish tree (named_inOrder files) roots way
      fun f member => allowed f.1 (name_mem_fileNames member)

/-- Writing units changes their files only. -/
theorem treeChangedOnlyAt_written (written : Written g destination d units d') (tree : d.IsTree)
    (roots : ∀ l, d.Way destination l → dirs l)
    (way : ∀ u ∈ units, ∀ l, d.Way (unitDirectory destination u) l → dirs l)
    (allowed : ∀ u ∈ units, ∀ name ∈ fileNames,
      places (d.place (unitDirectory destination u) ++ [name])) :
    TreeChangedOnlyAt dirs places d d' := by
  induction written with
  | none d => exact .refl tree
  | @more d d₁ d' u units first others ih =>
    obtain ⟨firstWay, otherWays⟩ := List.forall_mem_cons.mp way
    obtain ⟨firstPlaces, otherPlaces⟩ := List.forall_mem_cons.mp allowed
    have one : TreeChangedOnlyAt dirs places d (writeUnit g destination u d).2 :=
      treeChangedOnlyAt_writeUnit tree roots firstWay firstPlaces
    rw [first] at one
    have here := one.within.keeps.here
    have rest := ih one.tree (fun l inside => roots l ((Disk.way_congr here).mp inside))
      (fun v member l inside => otherWays v member l ((Disk.way_congr here).mp inside))
      (fun v member name known => by
        rw [Disk.place_congr here]
        exact otherPlaces v member name known)
    exact ⟨one.within.trans rest.within, rest.tree⟩

/-- A run changes at most the files of its units, whether it writes all of them or fails. -/
theorem treeChangedOnlyAt_publish {plan : Plan} (tree : w.disk.IsTree)
    (roots : ∀ l, w.disk.Way destination l → dirs l)
    (way : ∀ u ∈ plan.units, ∀ l, w.disk.Way (unitDirectory destination u) l → dirs l)
    (allowed : ∀ u ∈ plan.units, ∀ name ∈ fileNames,
      places (w.disk.place (unitDirectory destination u) ++ [name])) :
    TreeChangedOnlyAt dirs places w.disk (Run.perform (publish g plan destination) w).2.disk := by
  rcases publish_cases g plan destination w with
    ⟨w', ran, written⟩ | ⟨before, u, after, f, d₁, w', same, written, failed, ran⟩
  · rw [ran]
    exact treeChangedOnlyAt_written written tree roots way allowed
  · rw [ran]
    rw [same] at way allowed
    obtain ⟨wayBefore, wayRest⟩ := List.forall_mem_append.mp way
    obtain ⟨placesBefore, placesRest⟩ := List.forall_mem_append.mp allowed
    have first : TreeChangedOnlyAt dirs places w.disk d₁ :=
      treeChangedOnlyAt_written written tree roots wayBefore placesBefore
    have here := first.within.keeps.here
    have second : TreeChangedOnlyAt dirs places d₁ (writeUnit g destination u d₁).2 := by
      refine treeChangedOnlyAt_writeUnit first.tree (fun l inside => ?_) (fun l inside => ?_) ?_
      · exact roots l ((Disk.way_congr here).mp inside)
      · exact wayRest u List.mem_cons_self l ((Disk.way_congr here).mp inside)
      · rw [Disk.place_congr here]
        exact placesRest u List.mem_cons_self
    rw [failed] at second
    exact ⟨first.within.trans second.within, second.tree⟩

/-- A unit stays stored where none of its files changes. -/
theorem Stored.of_changedOnlyAt (stored : Stored d unit files)
    (within : ChangedOnlyAt dirs places d d')
    (elsewhere : ∀ name ∈ fileNames, ¬places (d.place unit ++ [name])) : Stored d' unit files := by
  intro f member
  have read : d.read (inside unit f.1) = .ok f.2 := stored f member
  obtain ⟨led, standing⟩ := Disk.read_eq_ok.mp read
  have proper : f.1 ≠ ".." := (named_inOrder files).proper f member
  refine Disk.read_eq_ok.mpr ⟨?_, ?_⟩
  · rw [within.keeps.place_eq]
    exact Disk.locateFor_of_keepsDirectories within.keeps led
  · rw [within.keeps.place_eq, within.file_iff]
    · exact standing
    · have free := elsewhere f.1 (name_mem_fileNames member)
      rwa [← Disk.place_inside_of_ne proper] at free

end Metadata

end ModelForge
