import ModelForge.Proofs.Files.Confined
import ModelForge.Proofs.Run

/-! # Files that are written one after the other

Two paths meet if they are the same or one of them is on the way to the other; then there are no
files at both of them (`ModelForge.Disk.not_meets_of_read`). Files that are written one after the
other are all read back with the content that each was given, if they are put at different places
(`ModelForge.Disk.WroteFiles`).
-/

namespace ModelForge

namespace Path

/-- A path is another one or on the way to it. -/
def OnWay (p q : Path) : Prop := p.root = q.root ∧ p.parts <+: q.parts

/-- One of two paths is the other or on the way to it. -/
def Meets (p q : Path) : Prop := OnWay p q ∨ OnWay q p

end Path

namespace Disk

open Files

variable {d d₁ d' : Disk} {p q root root' : Path} {names more : List String} {name : String}
  {base : Location} {content content' : Octets} {files others : List (Path × Octets)}

/-! ## Paths that meet -/

/-- A file is on the way to a path whose names below a directory are other names than its own only
if it is on the way to the directory. -/
theorem onWay_of_beneath (above : (beneath root (names ++ [name])).OnWay (beneath root' more))
    (free : name ∉ more) : (beneath root (names ++ [name])).OnWay root' := by
  obtain ⟨same, rest, parts⟩ := above
  refine ⟨same, ?_⟩
  change root.parts ++ (names ++ [name]) ++ rest = root'.parts ++ more at parts
  change root.parts ++ (names ++ [name]) <+: root'.parts
  rcases List.append_eq_append_iff.mp parts with ⟨between, short, -⟩ | ⟨between, long, behind⟩
  · exact ⟨between, short.symm⟩
  · rcases between.eq_nil_or_concat with rfl | ⟨front, last, rfl⟩
    · exact ⟨[], by rw [List.append_nil, long, List.append_nil]⟩
    · have last_name : last = name := by
        rw [List.concat_eq_append, ← List.append_assoc, ← List.append_assoc] at long
        exact (List.cons.inj (List.append_inj' long rfl).2).1.symm
      refine absurd ?_ free
      rw [behind, last_name, List.concat_eq_append]
      exact List.mem_append_left _ List.mem_concat_self

/-- Names can be walked one part after the other. -/
theorem passable_append : d.Passable base (names ++ more) ↔
    d.Passable base names ∧ d.Passable (names.foldl onward base) more := by
  induction names generalizing base with
  | nil => exact (and_iff_right trivial).symm
  | cons name names ih =>
    rw [List.cons_append, Passable, Passable, ih, List.foldl_cons, and_assoc, and_assoc]

/-- What is on the way to a file is a directory. -/
theorem eq_of_onWay (read : d.read p = .ok content) (read' : d.read q = .ok content')
    (above : p.OnWay q) : p = q := by
  obtain ⟨root, parts⟩ := p
  obtain ⟨root', parts'⟩ := q
  obtain ⟨same, more, whole⟩ := above
  dsimp only at same whole
  subst same whole
  cases more with
  | nil => rw [List.append_nil]
  | cons name rest =>
    obtain ⟨-, file⟩ := read_eq_ok.mp read
    obtain ⟨-, located⟩ := locateFor_eq_ok.mp (read_eq_ok.mp read').1
    obtain ⟨-, passable, -⟩ := locate_eq_ok.mp located
    have directory : d.entry? (d.place ⟨root, parts⟩) = some .directory :=
      (passable_append.mp passable).2.1
    rw [file] at directory
    cases directory

/-- Files that are both read have paths that do not meet. -/
theorem not_meets_of_read (read : d.read p = .ok content) (read' : d.read q = .ok content')
    (differ : p ≠ q) : ¬p.Meets q := by
  rintro (above | above)
  · exact differ (eq_of_onWay read read' above)
  · exact differ (eq_of_onWay read' read above).symm

/-! ## Writing -/

/-- The places that the paths of some files lead to. -/
def PlaceOf (d : Disk) (files : List (Path × Octets)) (l : Location) : Prop :=
  ∃ file ∈ files, l = d.place file.1

/-- At most the files at some paths have changed and directories have been made, and if the places
of the files differ, each has the content that stands beside its path. -/
structure WroteFiles (files : List (Path × Octets)) (d d' : Disk) : Prop where
  within : ChangedOnlyAt (fun _ => True) (d.PlaceOf files) d d'
  reads : (files.map fun file => d.place file.1).Nodup →
    ∀ file ∈ files, d'.read file.1 = .ok file.2

theorem WroteFiles.refl (d : Disk) : WroteFiles [] d d :=
  ⟨.refl _ _ d, fun _ _ none => absurd none List.not_mem_nil⟩

theorem placeOf_single (d : Disk) (p : Path) (content : Octets) :
    d.PlaceOf [(p, content)] (d.place p) := ⟨_, List.mem_singleton_self _, rfl⟩

/-- A file that is read back, with nothing else changed, was written. -/
theorem wroteFiles_single (within : ChangedOnlyAt (fun _ => True) (d.PlaceOf [(p, content)]) d d')
    (read : d'.read p = .ok content) : WroteFiles [(p, content)] d d' where
  within := within
  reads _ file member := by
    rw [List.mem_singleton.mp member]
    exact read

/-- A file that is left alone is still read. -/
theorem ChangedOnlyAt.read_of_read {dirs places : Location → Prop}
    (within : ChangedOnlyAt dirs places d d') (elsewhere : ¬places (d.place p))
    (read : d.read p = .ok content) : d'.read p = .ok content := by
  obtain ⟨led, standing⟩ := read_eq_ok.mp read
  rw [read_eq_ok, within.keeps.place_eq]
  exact ⟨locateFor_of_keepsDirectories within.keeps led, (within.file_iff elsewhere).mpr standing⟩

/-- A file keeps its content while others are written. -/
theorem WroteFiles.read_of_read (wrote : WroteFiles files d d') (read : d.read p = .ok content)
    (elsewhere : d.place p ∉ files.map fun file => d.place file.1) :
    d'.read p = .ok content := by
  refine wrote.within.read_of_read ?_ read
  rintro ⟨file, member, same⟩
  exact elsewhere (List.mem_map.mpr ⟨file, member, same.symm⟩)

/-- Files written one after the other were written, if they are different. -/
theorem WroteFiles.trans (first : WroteFiles files d d₁) (second : WroteFiles others d₁ d') :
    WroteFiles (files ++ others) d d' := by
  have places (file : Path × Octets) : d₁.place file.1 = d.place file.1 :=
    first.within.keeps.place_eq file.1
  refine ⟨ChangedOnlyAt.trans (first.within.mono (fun _ there => there) ?_)
    (second.within.mono (fun _ there => there) ?_), fun differ => ?_⟩
  · rintro l ⟨file, member, same⟩
    exact ⟨file, List.mem_append_left _ member, same⟩
  · rintro l ⟨file, member, same⟩
    exact ⟨file, List.mem_append_right _ member, same.trans (places file)⟩
  · rw [List.map_append, List.nodup_append] at differ
    obtain ⟨once, once', apart⟩ := differ
    simp only [← places] at once' apart
    refine List.forall_mem_append.mpr ⟨fun file member => ?_, second.reads once'⟩
    refine second.read_of_read (first.reads once file member) fun again => ?_
    exact apart _ (List.mem_map_of_mem member) _ again rfl

/-- What was written is read. -/
theorem read_of_write (written : d.write p content = .ok d') : d'.read p = .ok content := by
  obtain ⟨l, led, -⟩ := Result.bind_eq_ok.mp written
  obtain ⟨free, -⟩ := locateFor_eq_ok.mp led
  obtain ⟨l, led, other, rfl⟩ := write_eq_ok written
  exact read_of_file free (locate_of_keepsDirectories (keepsDirectories_put other _) led)
    (entry?_put_self (ne_nil_of_not_directory other) _)

end Disk

namespace Run

open Disk (WroteFiles)

variable {α β : Type} {x : Run α} {next : α → Run β} {d d' : Disk} {b : β} {p : Path}
  {content : Octets}

/-- A run that succeeds comes from steps that do. -/
theorem RunsTo.bind_ok (leads : RunsTo (x >>= next) d (.ok b) d') :
    ∃ a d₁, RunsTo x d (.ok a) d₁ ∧ RunsTo (next a) d₁ (.ok b) d' := by
  rcases leads.bind with ⟨f, no, -⟩ | done
  · cases no
  · exact done

/-- A run of an action on files is the action. -/
theorem run_of_runsTo_files {action : Files.Action α} {a : α}
    (leads : RunsTo (files action) d (.ok a) d') : action.run.run d = (.ok a, d') := by
  obtain ⟨l, l', ran⟩ := leads
  obtain ⟨d₁, done, same⟩ := perform_files_eq_ok.mp ran
  cases same
  exact done

/-- Steps that write files one after the other write all of these files. -/
theorem wroteFiles_of_mapM {step : α → Run β} {files : α → List (Path × Octets)} {items : List α}
    {made : List β} (each : ∀ a ∈ items, ∀ d b d', RunsTo (step a) d (.ok b) d' →
      WroteFiles (files a) d d') (leads : RunsTo (items.mapM step) d (.ok made) d') :
    WroteFiles (items.flatMap files) d d' := by
  induction items generalizing d made with
  | nil =>
    obtain ⟨-, rfl⟩ := leads.pure
    exact .refl _
  | cons a items ih =>
    obtain ⟨first, others⟩ := List.forall_mem_cons.mp each
    rw [List.mapM_cons] at leads
    obtain ⟨b, d₁, one, leads⟩ := leads.bind_ok
    obtain ⟨bs, d₂, rest, leads⟩ := leads.bind_ok
    obtain ⟨-, rfl⟩ := leads.pure
    rw [List.flatMap_cons]
    exact (first _ _ _ one).trans (ih others rest)

/-- A file that is written in a directory that is made for it. -/
theorem wroteFiles_of_make_write
    (leads : RunsTo (files do
      Files.Action.makeDirectories p.parent
      Files.Action.write p content) d (.ok ()) d') : WroteFiles [(p, content)] d d' := by
  have ran := run_of_runsTo_files leads
  have stays : Files.Action.KeepsToPlaces (fun _ => True) (d.PlaceOf [(p, content)]) d (do
      Files.Action.makeDirectories p.parent
      Files.Action.write p content) :=
    (Files.Action.keepsToPlaces_makeDirectories fun _ _ => trivial).bind fun _ =>
      Files.Action.keepsToPlaces_write (Disk.placeOf_single d p content) content
  have within := (stays d (.refl _ _ d)).1
  rw [ran] at within
  obtain ⟨_, d₁, -, written⟩ := Step.run_bind_eq_ok.mp ran
  exact Disk.wroteFiles_single within
    (Disk.read_of_write (Files.Action.run_ofOperation_eq_ok.mp written))

/-- A file that is replaced as a whole. -/
theorem wroteFiles_of_replaceFile
    (leads : RunsTo (files (Files.Action.replaceFile p content)) d (.ok ()) d') :
    WroteFiles [(p, content)] d d' := by
  have ran := run_of_runsTo_files leads
  have stays : Files.Action.KeepsToPlaces (fun _ => True) (d.PlaceOf [(p, content)]) d
      (Files.Action.replaceFile p content) :=
    Files.Action.keepsToPlaces_replaceFile (fun _ _ => trivial) (Disk.placeOf_single d p content)
      content
  have within := (stays d (.refl _ _ d)).1
  rw [ran] at within
  exact Disk.wroteFiles_single within (Files.Action.read_of_replaceFile ran)

end Run

end ModelForge
