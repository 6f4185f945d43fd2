import ModelForge.Proofs.Files.Staging

/-! # Publishing files in a directory

Files are published through a staging directory: all are written there and then moved into place one
after the other (`ModelForge.Files.Action.publish_eq`). However that ends, at most the published
files have changed, missing directories have been made on the way of two paths, and nothing of the
staging directory is left (`ModelForge.Files.Action.treeChangedOnlyAt_publish`). As long as the
first move is not done, no file has changed
(`ModelForge.Files.Action.treeChangedOnlyAt_publish_of_unmoved`); after any number of moves just the
files moved so far are read with their new content (`ModelForge.Files.Action.read_of_publishing`).
-/

namespace ModelForge

namespace Files

namespace Action

open Disk (inside ChangedOnlyAt TreeChangedOnlyAt)

variable {d₀ d d' d'' before : Disk} {root staging directory : Path} {name : String}
  {contents : List (String × Octets)} {dirs files : Location → Prop} {fault : Fault}

/-- The work in a staging directory, cut off after some moves. -/
def filling (staging directory : Path) (contents : List (String × Octets)) (moves : Nat) :
    Action Unit := do
  writeAll staging contents
  makeDirectories directory
  moveAll staging directory ((contents.take moves).map Prod.fst)

/-- Publishing, cut off after some moves. -/
def publishing (root directory : Path) (contents : List (String × Octets)) (moves : Nat) :
    Action Unit := do
  let staging ← opening root
  filling staging directory contents moves

/-- Work after which the staging directory is removed in any case. -/
def removing (staging : Path) (work : Action Unit) : Action Unit := do
  tryCatch work fun f => do
    removeTree staging
    throw f
  removeTree staging

theorem publish_eq (root directory : Path) (contents : List (String × Octets)) :
    publish root directory contents = (do
      let staging ← opening root
      removing staging (filling staging directory contents contents.length)) := by
  unfold publish opening removing filling
  rw [List.take_length, bind_assoc]

/-- The staging directory is removed however the work ends. -/
theorem run_removing (staging : Path) (work : Action Unit) (d : Disk) :
    (removing staging work).run.run d =
      ((work.run.run d).1, (work.run.run d).2.removeTree staging) := by
  unfold removing
  rcases outcome : work.run.run d with ⟨result, d'⟩
  cases result with
  | ok done =>
    rw [Step.run_bind_of_ok (Step.run_tryCatch_of_ok outcome _)]
    rfl
  | error f =>
    refine Step.run_bind_of_error ?_ _
    rw [Step.run_tryCatch_of_error outcome]
    rfl

/-- Filling a staging directory fails before any move, or the moves are what is left to do. -/
theorem filling_cases (changed : TreeChangedOnlyAt dirs files d₀ d) (named : NamedProperly contents)
    (way : ∀ l, d₀.Way directory l → dirs l)
    (allowed : ∀ f ∈ contents, files (d₀.place staging ++ [f.1])) :
    (∃ f d₁, (∀ k, (filling staging directory contents k).run.run d = (.error f, d₁)) ∧
      TreeChangedOnlyAt dirs files d₀ d₁) ∨
    ∃ d₁, TreeChangedOnlyAt dirs files d₀ d₁ ∧ d₁.HoldsFiles (d₀.place staging) contents ∧
      d₁.isDirectory directory = .ok true ∧
      ∀ k, (filling staging directory contents k).run.run d =
        (moveAll staging directory ((contents.take k).map Prod.fst)).run.run d₁ := by
  have written := treeChangedOnlyAt_writeAll changed named allowed
  rcases wrote : (writeAll staging contents).run.run d with ⟨result, d₁⟩
  rw [wrote] at written
  cases result with
  | error f => exact .inl ⟨f, d₁, fun k => Step.run_bind_of_error wrote _, written⟩
  | ok done =>
    obtain ⟨-, holds, -⟩ := entries_of_writeAll named wrote
    rw [changed.within.keeps.place_eq] at holds
    have made_tidy := written.makeDirectories way
    have made_within := (treeChangedOnlyAt_makeDirectories written.tree directory).within
    rcases made : (makeDirectories directory).run.run d₁ with ⟨result, d₂⟩
    rw [made] at made_within
    have run := run_makeDirectories directory d₁
    rw [made] at run
    rw [← (Prod.mk.inj run).2] at made_tidy
    cases result with
    | error f =>
      refine .inl ⟨f, d₂, fun k => ?_, made_tidy⟩
      exact (Step.run_bind_of_ok wrote _).trans (Step.run_bind_of_error made _)
    | ok done =>
      refine .inr ⟨d₂, made_tidy, holds.of_changedOnlyAt made_within fun _ _ no => no,
        isDirectory_of_makeDirectories made, fun k => ?_⟩
      exact (Step.run_bind_of_ok wrote _).trans (Step.run_bind_of_ok made _)

/-- All files stand in the staging directory, and the moves are what is left to do. -/
structure StagingFilled (dirs : Location → Prop) (d before d' : Disk)
    (root staging directory : Path) (contents : List (String × Octets)) : Prop where
  opened : ∃ start, StagingOpened d before start root staging
  changed : TreeChangedOnlyAt dirs (fun m => before.place staging <+: m) before d'
  staged : d'.HoldsFiles (before.place staging) contents
  there : d'.isDirectory directory = .ok true
  publishing (k : Nat) : (publishing root directory contents k).run.run d =
    (moveAll staging directory ((contents.take k).map Prod.fst)).run.run d'
  publish : (publish root directory contents).run.run d =
    (((moveAll staging directory (contents.map Prod.fst)).run.run d').1,
      ((moveAll staging directory (contents.map Prod.fst)).run.run d').2.removeTree staging)

/-- Publishing fails before any move, or it comes to the moves. -/
theorem publish_cases (tree : d.IsTree) (named : NamedProperly contents)
    (roots : ∀ l, d.Way root l → dirs l) (way : ∀ l, d.Way directory l → dirs l) :
    (∃ f d₁ d₂, (∀ k, (publishing root directory contents k).run.run d = (.error f, d₁)) ∧
      (publish root directory contents).run.run d = (.error f, d₂) ∧
      TreeChangedOnlyAt dirs (fun _ => False) d d₂) ∨
    ∃ before d₁ staging, StagingFilled dirs d before d₁ root staging directory contents := by
  rcases opening_run : (opening root).run.run d with ⟨result, start⟩
  cases result with
  | error f =>
    refine .inl ⟨f, start, start, fun k => Step.run_bind_of_error opening_run _, ?_, ?_⟩
    · rw [publish_eq, Step.run_bind_of_error opening_run]
    · exact (treeChangedOnlyAt_of_opening tree opening_run).mono roots fun _ no => no.elim
  | ok staging =>
    obtain ⟨before, opened⟩ := stagingOpened_of_opening tree opening_run
    have cut (k : Nat) : (publishing root directory contents k).run.run d =
        (filling staging directory contents k).run.run start :=
      Step.run_bind_of_ok opening_run _
    have whole := congrArg (fun x => x.run.run d) (publish_eq root directory contents)
    rw [Step.run_bind_of_ok opening_run, run_removing] at whole
    have shift (l : Location) (inside : before.Way directory l) : dirs l :=
      way l ((Disk.way_congr opened.changed.within.keeps.here).mp inside)
    rcases filling_cases (opened.treeChangedOnlyAt_start dirs) named shift
      (fun _ _ => List.prefix_append _ _) with
      ⟨f, d₁, failed, changed⟩ | ⟨d₁, changed, staged, there, moves⟩
    · refine .inl ⟨f, d₁, d₁.removeTree staging, fun k => (cut k).trans (failed k), ?_, ?_⟩
      · rw [whole, failed]
      · exact opened.treeChangedOnlyAt_removed roots
          (changed.mono (fun _ inside => inside) fun _ => .inr)
    · refine .inr ⟨before, d₁, staging, ⟨start, opened⟩, changed, staged, there,
        fun k => (cut k).trans (moves k), ?_⟩
      rw [whole, moves, List.take_length]

/-- However publishing ends, at most the published files have changed. -/
theorem treeChangedOnlyAt_publish (tree : d.IsTree) (named : NamedProperly contents)
    (roots : ∀ l, d.Way root l → dirs l) (way : ∀ l, d.Way directory l → dirs l)
    (allowed : ∀ f ∈ contents, files (d.place directory ++ [f.1])) :
    TreeChangedOnlyAt dirs files d ((publish root directory contents).run.run d).2 := by
  rcases publish_cases tree named roots way with
    ⟨f, d₁, d₂, -, failed, changed⟩ | ⟨before, d₁, staging, prepared⟩
  · rw [failed]
    exact changed.mono (fun _ inside => inside) fun _ no => no.elim
  · obtain ⟨start, opened⟩ := prepared.opened
    rw [prepared.publish]
    have filled :
        TreeChangedOnlyAt dirs (fun m => files m ∨ before.place staging <+: m) before d₁ :=
      prepared.changed.mono (fun _ inside => inside) fun _ => .inr
    refine opened.treeChangedOnlyAt_removed roots (treeChangedOnlyAt_moveAll filled named
      prepared.staged (fun _ _ => .inr (List.prefix_append _ _)) ?_)
    intro f member
    rw [opened.changed.within.keeps.place_eq]
    exact .inl (allowed f member)

/-- If not even the first move is done, publishing fails, and no file has changed. -/
theorem treeChangedOnlyAt_publish_of_unmoved (tree : d.IsTree) (named : NamedProperly contents)
    (roots : ∀ l, d.Way root l → dirs l) (way : ∀ l, d.Way directory l → dirs l)
    (unmoved : (publishing root directory contents 1).run.run d = (.error fault, d')) :
    ∃ d₂, (publish root directory contents).run.run d = (.error fault, d₂) ∧
      TreeChangedOnlyAt dirs (fun _ => False) d d₂ := by
  rcases publish_cases tree named roots way with
    ⟨f, d₁, d₂, cut, failed, changed⟩ | ⟨before, d₁, staging, prepared⟩
  · cases (cut 1).symm.trans unmoved
    exact ⟨d₂, failed, changed⟩
  · have cut := prepared.publishing 1
    rw [unmoved] at cut
    cases contents with
    | nil => cases cut
    | cons f contents =>
      obtain ⟨start, opened⟩ := prepared.opened
      have first : (moveAll staging directory [f.1]).run.run d₁ = (.error fault, d') := cut.symm
      rcases moved : (move (inside staging f.1) (inside directory f.1)).run.run d₁ with
        ⟨result, d₂⟩
      cases result with
      | ok done =>
        rw [show (moveAll staging directory [f.1]).run.run d₁ = (.ok (), d₂) from
          Step.run_bind_of_ok moved _] at first
        cases first
      | error g =>
        have stopped (names : List String) :
            (moveAll staging directory (f.1 :: names)).run.run d₁ = (.error g, d₂) :=
          Step.run_bind_of_error moved _
        cases (stopped []).symm.trans first
        rw [unchanged_of_ofOperation moved] at stopped
        refine ⟨d₁.removeTree staging, ?_, opened.treeChangedOnlyAt_removed roots
          (prepared.changed.mono (fun _ inside => inside) fun _ => .inr)⟩
        rw [prepared.publish, List.map_cons, stopped]

/-! ## What is read -/

theorem moveAll_append (staging directory : Path) (first second : List String) :
    moveAll staging directory (first ++ second) = (do
      moveAll staging directory first
      moveAll staging directory second) := List.forM_append

/-- Moving files keeps the directories. -/
theorem keeps_moveAll (tree : d.IsTree) (named : NamedProperly contents)
    (staged : d.HoldsFiles (d.place staging) contents)
    (done : (moveAll staging directory (contents.map Prod.fst)).run.run d = (.ok (), d')) :
    Disk.KeepsDirectories d d' := by
  have start : TreeChangedOnlyAt (fun _ => True) (fun _ => True) d d := .refl tree
  have changed : TreeChangedOnlyAt (fun _ => True) (fun _ => True) d
      ((moveAll staging directory (contents.map Prod.fst)).run.run d).2 :=
    treeChangedOnlyAt_moveAll start named staged (fun _ _ => trivial) fun f _ => trivial
  rw [done] at changed
  exact changed.within.keeps

/-- Moves that are done can be cut off after any number. -/
theorem moveAll_cut
    (done : (moveAll staging directory (contents.map Prod.fst)).run.run d = (.ok (), d''))
    (k : Nat) :
    ∃ d', (moveAll staging directory ((contents.take k).map Prod.fst)).run.run d =
      (.ok (), d') := by
  rw [← List.take_append_drop k contents, List.map_append, moveAll_append] at done
  obtain ⟨⟨⟩, d', first, -⟩ := Step.run_bind_eq_ok.mp done
  exact ⟨d', first⟩

namespace StagingFilled

variable (prepared : StagingFilled dirs d before d' root staging directory contents)

include prepared

/-- Filling the staging directory keeps the directories. -/
theorem keeps : Disk.KeepsDirectories d d' := by
  obtain ⟨start, opened⟩ := prepared.opened
  exact opened.changed.within.keeps.trans prepared.changed.within.keeps

/-- Paths have their places from before. -/
theorem place_eq (p : Path) : before.place p = d.place p := by
  obtain ⟨start, opened⟩ := prepared.opened
  exact opened.changed.within.keeps.place_eq p

/-- The staging directory has nothing to do with the places of the files, if the directory was there
before. -/
theorem not_staged (there : d.isDirectory directory = .ok true) {f : String × Octets}
    (member : f ∈ contents) (other : d'.entry? (d.place directory ++ [f.1]) ≠ some .directory) :
    ¬before.place staging <+: d.place directory ++ [f.1] := by
  obtain ⟨start, opened⟩ := prepared.opened
  obtain ⟨-, standing⟩ := Disk.isDirectory_eq_true.mp there
  have directory_stays := opened.changed.within.keeps.directories _ standing
  intro below
  rcases List.prefix_concat_iff.mp below with same | above
  · refine other ?_
    rw [← same]
    refine prepared.changed.tree _ f.1 ?_
    rw [prepared.staged f member]
    exact fun no => (nomatch no)
  · obtain ⟨names, same⟩ := above
    rw [← same] at directory_stays
    by_cases none : names = []
    · rw [none, List.append_nil, opened.free] at directory_stays
      cases directory_stays
    · rw [opened.changed.tree.entry?_below (Disk.ne_directory_of_none opened.free) names none]
        at directory_stays
      cases directory_stays

/-- Before the moves the directory holds what it held at first, unless directories were made. -/
theorem entry_eq (there : d.isDirectory directory = .ok true) {f : String × Octets}
    (member : f ∈ contents) (other : d'.entry? (d.place directory ++ [f.1]) ≠ some .directory) :
    d'.entry? (d.place directory ++ [f.1]) = d.entry? (d.place directory ++ [f.1]) := by
  obtain ⟨start, opened⟩ := prepared.opened
  rcases prepared.changed.within.entries _ (prepared.not_staged there member other) with
    same | ⟨-, -, made⟩
  · rw [same] at other ⊢
    rcases opened.changed.within.entries _ id with same | ⟨-, -, made⟩
    · exact same
    · exact absurd made other
  · exact absurd made other

/-- Nothing of the staging directory is left after the moves. -/
theorem removed (named : NamedProperly contents)
    (moves : (moveAll staging directory (contents.map Prod.fst)).run.run d' = (.ok (), d'')) :
    TreeChangedOnlyAt (fun _ => True) (fun _ => True) before (d''.removeTree staging) := by
  obtain ⟨start, opened⟩ := prepared.opened
  have worked : TreeChangedOnlyAt (fun _ => True) (fun _ => True) before
      ((moveAll staging directory (contents.map Prod.fst)).run.run d').2 :=
    treeChangedOnlyAt_moveAll (prepared.changed.mono (fun _ _ => trivial) fun _ _ => trivial) named
      prepared.staged (fun _ _ => trivial) fun _ _ => trivial
  rw [moves] at worked
  exact opened.removed (worked.mono (fun _ inside => inside) fun _ _ => .inl trivial)

/-- Files that were moved out of the staging directory still stand when it is removed. -/
theorem holds (named : NamedProperly contents)
    (moves : (moveAll staging directory (contents.map Prod.fst)).run.run d' = (.ok (), d''))
    (outside : ∀ f ∈ contents, ¬before.place staging <+: before.place directory ++ [f.1]) :
    Disk.HoldsFiles (d''.removeTree staging) (before.place directory) contents := by
  obtain ⟨start, opened⟩ := prepared.opened
  have staged : d'.HoldsFiles (d'.place staging) contents := by
    rw [prepared.changed.within.keeps.place_eq]
    exact prepared.staged
  have kept := prepared.changed.within.keeps.trans
    (keeps_moveAll prepared.changed.tree named staged moves)
  have moved := (entries_of_moveAll named staged moves).1
  rw [prepared.changed.within.keeps.place_eq] at moved
  intro f member
  rw [Disk.entry?_removeTree (Disk.locate_of_keepsDirectories kept opened.locate_staging)
    (Disk.ne_nil_of_not_directory (Disk.ne_directory_of_none opened.free)),
    if_neg (outside f member)]
  exact moved f member

end StagingFilled

/-- After any number of moves into a directory that was there, the files moved so far are read with
their new content, and the others as before. -/
theorem read_of_publishing (tree : d.IsTree) (named : NamedProperly contents)
    (there : d.isDirectory directory = .ok true)
    (done : (publish root directory contents).run.run d = (.ok (), d'')) (k : Nat) :
    ∃ d', (publishing root directory contents k).run.run d = (.ok (), d') ∧
      (∀ f ∈ contents.take k, d'.read (inside directory f.1) = .ok f.2) ∧
      ∀ f ∈ contents.drop k, d'.read (inside directory f.1) = d.read (inside directory f.1) := by
  have anywhere (p : Path) (l : Location) (_ : d.Way p l) : True := trivial
  rcases publish_cases tree named (anywhere root) (anywhere directory) with
    ⟨f, d₁, d₂, -, failed, -⟩ | ⟨before, d₁, staging, prepared⟩
  · rw [failed] at done
    cases done
  · rw [prepared.publish] at done
    rcases moves : (moveAll staging directory (contents.map Prod.fst)).run.run d₁ with
      ⟨result, d₂⟩
    rw [moves] at done
    cases (Prod.mk.inj done).1
    obtain ⟨d', taken⟩ := moveAll_cut moves k
    have at_start (p : Path) : d₁.place p = d.place p := prepared.keeps.place_eq p
    have staged : d₁.HoldsFiles (d₁.place staging) contents := by
      rw [at_start, ← prepared.place_eq]
      exact prepared.staged
    have targets := target_of_moveAll named staged moves
    have fewer : d₁.HoldsFiles (d₁.place staging) (contents.take k) :=
      fun f member => staged f (List.mem_of_mem_take member)
    obtain ⟨holds, others⟩ := entries_of_moveAll (named.take k) fewer taken
    have kept := keeps_moveAll prepared.changed.tree (named.take k) fewer taken
    have later := Disk.isDirectory_of_keepsDirectories (prepared.keeps.trans kept) there
    rw [at_start] at targets holds
    -- Wherever the names led when the files were moved, they lead there before and after.
    have leads (f : String × Octets) (member : f ∈ contents) :
        d'.locateFor (inside directory f.1) = .ok (d.place directory ++ [f.1]) ∧
          d.locateFor (inside directory f.1) = .ok (d.place directory ++ [f.1]) := by
      obtain ⟨⟨d₃, l, led⟩, -⟩ := targets f member
      have after := Disk.locateFor_inside led later
      have at_first := Disk.locateFor_inside led there
      rw [Disk.onward_of_ne (named.proper f member)] at after at_first
      rw [(prepared.keeps.trans kept).place_eq] at after
      exact ⟨after, at_first⟩
    refine ⟨d', (prepared.publishing k).trans taken, fun f member => ?_, fun f member => ?_⟩
    · have inside := (leads f (List.mem_of_mem_take member)).1
      exact Disk.read_of_file (Disk.locateFor_eq_ok.mp inside).1 (Disk.locateFor_eq_ok.mp inside).2
        (holds f member)
    · obtain ⟨after, at_first⟩ := leads f (List.mem_of_mem_drop member)
      refine Disk.read_congr at_first after ?_
      rw [← prepared.entry_eq there (List.mem_of_mem_drop member)
        (targets f (List.mem_of_mem_drop member)).2]
      refine others _ fun g earlier => ?_
      have different : f.1 ≠ g.1 := named.ne_of_take_drop earlier member
      exact ⟨append_singleton_ne different, append_singleton_ne different⟩

/-- Publishing that is done has moved all files out of a staging directory and then removed it. -/
theorem stagingFilled_of_publish (tree : d.IsTree) (named : NamedProperly contents)
    (done : (publish root directory contents).run.run d = (.ok (), d')) :
    ∃ before d₁ d₂ staging,
      StagingFilled (fun _ => True) d before d₁ root staging directory contents ∧
      (moveAll staging directory (contents.map Prod.fst)).run.run d₁ = (.ok (), d₂) ∧
      d' = d₂.removeTree staging := by
  rcases publish_cases tree named (fun _ _ => trivial) (fun _ _ => trivial) with
    ⟨f, d₁, d₂, -, failed, -⟩ | ⟨before, d₁, staging, prepared⟩
  · rw [failed] at done
    cases done
  · rw [prepared.publish] at done
    rcases moves : (moveAll staging directory (contents.map Prod.fst)).run.run d₁ with
      ⟨result, d₂⟩
    rw [moves] at done
    cases done
    exact ⟨before, d₁, d₂, staging, prepared, moves, rfl⟩

/-- Files that were moved into a directory out of the way of the staging directory are read back
when that is removed. -/
theorem StagingFilled.read
    (prepared : StagingFilled dirs d before d' root staging directory contents)
    (named : NamedProperly contents)
    (moves : (moveAll staging directory (contents.map Prod.fst)).run.run d' = (.ok (), d''))
    (outside : ∀ f ∈ contents, ¬before.place staging <+: before.place directory ++ [f.1])
    (there : Disk.isDirectory (d''.removeTree staging) directory = .ok true) :
    ∀ f ∈ contents, Disk.read (d''.removeTree staging) (inside directory f.1) = .ok f.2 := by
  intro f member
  have staged : d'.HoldsFiles (d'.place staging) contents := by
    rw [prepared.changed.within.keeps.place_eq]
    exact prepared.staged
  obtain ⟨⟨d₁, l, led⟩, -⟩ := target_of_moveAll named staged moves f member
  refine Disk.read_inside (named.proper f member) led there ?_
  rw [(prepared.removed named moves).within.keeps.place_eq]
  exact prepared.holds named moves outside f member

/-- What is published below the root of the staging directory, in a directory of its own, is read
back. -/
theorem read_of_publish (tree : d.IsTree) (named : NamedProperly contents) (proper : name ≠ "..")
    (own : ∀ token, name ≠ stagingName token)
    (done : (publish root (inside root name) contents).run.run d = (.ok (), d')) :
    ∀ f ∈ contents, d'.read (inside (inside root name) f.1) = .ok f.2 := by
  obtain ⟨before, d₁, d₂, staging, prepared, moves, rfl⟩ := stagingFilled_of_publish tree named done
  obtain ⟨start, opened⟩ := prepared.opened
  obtain ⟨token, staging_place⟩ := opened.place_eq
  have removed := prepared.removed named moves
  have place : before.place (inside root name) = before.place root ++ [name] :=
    Disk.place_inside_of_ne proper
  have outside (f : String × Octets) (_ : f ∈ contents) :
      ¬before.place staging <+: before.place (inside root name) ++ [f.1] := by
    rw [staging_place, place, List.append_assoc, List.prefix_append_right_inj,
      List.singleton_append, List.cons_prefix_cons]
    exact fun same => own token same.1.symm
  intro f member
  -- The directory is there, since a file stands in it, and it lies where the root is.
  have there : Disk.isDirectory (d₂.removeTree staging) (inside root name) = .ok true := by
    have standing := prepared.holds named moves outside f member
    have above := removed.tree _ _ (by rw [standing]; exact fun no => (nomatch no))
    have led := Disk.locateFor_inside (Disk.isDirectory_eq_true.mp prepared.there).1
      (Disk.isDirectory_of_keepsDirectories removed.within.keeps opened.there)
    rw [Disk.onward_of_ne proper, removed.within.keeps.place_eq, ← place] at led
    rw [Disk.isDirectory_eq_true, removed.within.keeps.place_eq]
    exact ⟨led, above⟩
  exact prepared.read named moves outside there f member

/-- What is published in the root of the staging directory itself is read back. -/
theorem read_of_publish_root (tree : d.IsTree) (named : NamedProperly contents)
    (own : ∀ f ∈ contents, ∀ token, f.1 ≠ stagingName token)
    (done : (publish root root contents).run.run d = (.ok (), d')) :
    ∀ f ∈ contents, d'.read (inside root f.1) = .ok f.2 := by
  obtain ⟨before, d₁, d₂, staging, prepared, moves, rfl⟩ := stagingFilled_of_publish tree named done
  obtain ⟨start, opened⟩ := prepared.opened
  obtain ⟨token, staging_place⟩ := opened.place_eq
  refine prepared.read named moves (fun f member => ?_)
    (Disk.isDirectory_of_keepsDirectories (prepared.removed named moves).within.keeps opened.there)
  rw [staging_place, List.prefix_append_right_inj, List.cons_prefix_cons]
  exact fun same => own f member token same.1.symm

end Action

end Files

end ModelForge
