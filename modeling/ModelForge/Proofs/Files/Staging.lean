import ModelForge.Proofs.Files.TreeChanges

/-! # A staging directory

A staging directory is made where nothing stood
(`ModelForge.Files.Action.stagingOpened_of_opening`), files are written there, and they are moved to
another directory one after the other. Whether that succeeds or not, nothing else changes, and what
is left is removed without a trace
(`ModelForge.Files.Action.StagingOpened.treeChangedOnlyAt_removed`).
-/

namespace ModelForge

namespace Files

namespace Action

open Disk (inside ChangedOnlyAt TreeChangedOnlyAt)

variable {d₀ d d' d'' before : Disk} {root staging directory : Path} {name : String}
  {contents : List (String × Octets)} {dirs files : Location → Prop} {fault : Fault}

/-! ## Making a staging directory -/

/-- A new directory for staging below a directory that is made if it is missing. -/
def opening (root : Path) : Action Path := do
  makeDirectories root
  makeStaging root

/-- What is there when a staging directory has been made. -/
structure StagingOpened (d before d' : Disk) (root staging : Path) : Prop where
  changed : TreeChangedOnlyAt (d.Way root) (fun _ => False) d before
  there : before.isDirectory root = .ok true
  name : ∃ token, staging = inside root (stagingName token)
  made : before.makeDirectory staging = .ok d'

/-- A staging directory is a directory of a fresh name. -/
theorem run_makeStaging {l : Location} (led : d.locateFor root = .ok l) :
    (makeStaging root).run.run d = ((do
      makeDirectory (inside root (d.freshName l stagingName))
      return inside root (d.freshName l stagingName)) : Action Path).run.run d := by
  have found : (locate root).run.run d = (.ok l, d) := by rw [run_locate, led]
  unfold makeStaging
  rw [Step.run_bind_of_ok found, Step.run_bind_of_ok (Step.run_get d)]
  rfl

/-- What making one gives. -/
theorem makeStaging_eq_ok (made : (makeStaging root).run.run d = (.ok staging, d')) :
    (∃ token, staging = inside root (stagingName token)) ∧ d.makeDirectory staging = .ok d' := by
  cases led : d.locateFor root with
  | error f =>
    have found : (locate root).run.run d = (.error f, d) := by rw [run_locate, led]
    unfold makeStaging at made
    rw [Step.run_bind_of_error found] at made
    cases made
  | ok l =>
    rw [run_makeStaging led] at made
    obtain ⟨⟨⟩, d₁, one, done⟩ := Step.run_bind_eq_ok.mp made
    cases done
    exact ⟨⟨_, rfl⟩, run_ofOperation_eq_ok.mp one⟩

/-- If it could not be made, the disk is as before. -/
theorem unchanged_of_makeStaging (failed : (makeStaging root).run.run d = (.error fault, d')) :
    d' = d := by
  cases led : d.locateFor root with
  | error f =>
    have found : (locate root).run.run d = (.error f, d) := by rw [run_locate, led]
    unfold makeStaging at failed
    rw [Step.run_bind_of_error found] at failed
    cases failed
    rfl
  | ok l =>
    rw [run_makeStaging led] at failed
    rcases made : (makeDirectory (inside root (d.freshName l stagingName))).run.run d with
      ⟨result, d₁⟩
    cases result with
    | error f =>
      rw [Step.run_bind_of_error made] at failed
      cases failed
      exact unchanged_of_ofOperation made
    | ok done =>
      rw [Step.run_bind_of_ok made] at failed
      cases failed

/-- Making directories changes places on the way of their path only. -/
theorem treeChangedOnlyAt_makeDirectories (tree : d.IsTree) (p : Path) :
    TreeChangedOnlyAt (d.Way p) (fun _ => False) d ((makeDirectories p).run.run d).2 := by
  rw [run_makeDirectories]
  exact (TreeChangedOnlyAt.refl tree).makeDirectories fun _ inside => inside

/-- Opening gives a staging directory where nothing stood. -/
theorem stagingOpened_of_opening (tree : d.IsTree)
    (opened : (opening root).run.run d = (.ok staging, d')) :
    ∃ before, StagingOpened d before d' root staging := by
  obtain ⟨⟨⟩, before, made, rest⟩ := Step.run_bind_eq_ok.mp opened
  obtain ⟨name, one⟩ := makeStaging_eq_ok rest
  have changed := treeChangedOnlyAt_makeDirectories tree root
  rw [made] at changed
  exact ⟨before, changed, isDirectory_of_makeDirectories made, name, one⟩

/-- If it fails, directories on the way to the root may have been made. -/
theorem treeChangedOnlyAt_of_opening (tree : d.IsTree)
    (failed : (opening root).run.run d = (.error fault, d')) :
    TreeChangedOnlyAt (d.Way root) (fun _ => False) d d' := by
  have changed := treeChangedOnlyAt_makeDirectories tree root
  unfold opening at failed
  rcases made : (makeDirectories root).run.run d with ⟨result, before⟩
  rw [made] at changed
  cases result with
  | error f =>
    rw [Step.run_bind_of_error made] at failed
    cases failed
    exact changed
  | ok done =>
    rw [Step.run_bind_of_ok made] at failed
    rw [unchanged_of_makeStaging failed]
    exact changed

theorem stagingName_ne (token : String) : stagingName token ≠ ".." := by
  intro same
  have letters := congrArg String.toList same
  unfold stagingName at letters
  rw [String.toList_append] at letters
  cases letters

namespace StagingOpened

variable (opened : StagingOpened d before d' root staging)

include opened

/-- A staging directory stands in its root. -/
theorem place_eq : ∃ token, before.place staging = before.place root ++ [stagingName token] := by
  obtain ⟨token, rfl⟩ := opened.name
  exact ⟨token, Disk.place_inside_of_ne (stagingName_ne token)⟩

/-- The path of a staging directory leads to it. -/
theorem locate_staging : before.locate staging = .ok (before.place staging) :=
  (Disk.locateFor_eq_ok.mp (Disk.makeDirectory_eq_ok opened.made).1).2

/-- Nothing stood there before. -/
theorem free : before.entry? (before.place staging) = none :=
  (Disk.makeDirectory_eq_ok opened.made).2.2.1

/-- The staging directory is all that is there more. -/
theorem treeChangedOnlyAt_start (dirs : Location → Prop) :
    TreeChangedOnlyAt dirs (fun m => before.place staging <+: m) before d' := by
  refine ⟨?_, opened.changed.tree.makeDirectory opened.made⟩
  obtain ⟨-, -, free, same⟩ := Disk.makeDirectory_eq_ok opened.made
  rw [same]
  exact (ChangedOnlyAt.refl _ _ before).put List.prefix_rfl (Disk.ne_directory_of_none free) _

/-- When the staging directory is removed, only what was to change has changed. -/
theorem removed
    (worked : TreeChangedOnlyAt dirs (fun m => files m ∨ before.place staging <+: m) before d'') :
    TreeChangedOnlyAt dirs files before (d''.removeTree staging) := by
  have led := opened.locate_staging
  have below_root := Disk.ne_nil_of_not_directory (Disk.ne_directory_of_none opened.free)
  exact ⟨worked.within.removeTree opened.changed.tree led opened.free,
    worked.tree.removeTree (Disk.locate_of_keepsDirectories worked.within.keeps led) below_root⟩

/-- Once it is removed, nothing of what was done in it is left. -/
theorem treeChangedOnlyAt_removed (roots : ∀ l, d.Way root l → dirs l)
    (worked : TreeChangedOnlyAt dirs (fun m => files m ∨ before.place staging <+: m) before d'') :
    TreeChangedOnlyAt dirs files d (d''.removeTree staging) := by
  have first : ChangedOnlyAt dirs files d before :=
    opened.changed.within.mono roots fun _ no => no.elim
  have second := opened.removed worked
  exact ⟨first.trans second.within, second.tree⟩

end StagingOpened

/-! ## Filling a staging directory -/

/-- The names of the files differ, and each leads into the directory it is put in. -/
structure NamedProperly (contents : List (String × Octets)) : Prop where
  distinct : (contents.map Prod.fst).Nodup
  proper : ∀ f ∈ contents, f.1 ≠ ".."

namespace NamedProperly

variable {f : String × Octets}

/-- The first file and the others of a list of proper names. -/
theorem of_cons (named : NamedProperly (f :: contents)) :
    f.1 ≠ ".." ∧ (∀ g ∈ contents, g.1 ≠ f.1) ∧ NamedProperly contents := by
  obtain ⟨distinct, proper⟩ := named
  obtain ⟨new, distinct⟩ := List.nodup_cons.mp distinct
  obtain ⟨first, others⟩ := List.forall_mem_cons.mp proper
  exact ⟨first, fun g member same => new (same ▸ List.mem_map_of_mem member), distinct, others⟩

theorem take (named : NamedProperly contents) (k : Nat) : NamedProperly (contents.take k) :=
  ⟨named.distinct.sublist ((List.take_sublist k contents).map _),
    fun f member => named.proper f (List.mem_of_mem_take member)⟩

/-- Files moved so far and files that are left have different names. -/
theorem ne_of_take_drop {k : Nat} {f g : String × Octets} (named : NamedProperly contents)
    (earlier : g ∈ contents.take k) (later : f ∈ contents.drop k) : f.1 ≠ g.1 := by
  have distinct := named.distinct
  rw [← List.take_append_drop k contents, List.map_append] at distinct
  exact ((List.nodup_append.mp distinct).2.2 _ (List.mem_map_of_mem earlier) _
    (List.mem_map_of_mem later)).symm

end NamedProperly

theorem append_singleton_ne {l m : Location} {other : String} (different : name ≠ other) :
    l ++ [name] ≠ m ++ [other] :=
  fun same => different (List.cons.inj (List.append_inj' same rfl).2).1

/-- Writing files into the staging directory changes them only. -/
theorem treeChangedOnlyAt_writeAll (changed : TreeChangedOnlyAt dirs files d₀ d)
    (named : NamedProperly contents) (allowed : ∀ f ∈ contents, files (d₀.place staging ++ [f.1])) :
    TreeChangedOnlyAt dirs files d₀ ((writeAll staging contents).run.run d).2 := by
  have safe : Step.Preserves (TreeChangedOnlyAt dirs files d₀) (fun _ => True)
      (writeAll staging contents) :=
    Step.Preserves.forM fun f member => preserves_ofOperation fun _ _ changed written =>
      changed.write (named.proper f member) (allowed f member) written
  exact (safe d changed).1

/-- Nothing but the written files has changed. -/
theorem entries_of_writeAll (named : NamedProperly contents)
    (done : (writeAll staging contents).run.run d = (.ok (), d')) :
    d'.here = d.here ∧ d'.HoldsFiles (d.place staging) contents ∧
      ∀ l, (∀ f ∈ contents, l ≠ d.place staging ++ [f.1]) → d'.entry? l = d.entry? l := by
  induction contents generalizing d with
  | nil =>
    cases done
    exact ⟨rfl, fun _ none => (nomatch none), fun _ _ => rfl⟩
  | cons f contents ih =>
    obtain ⟨proper, new, others⟩ := named.of_cons
    obtain ⟨⟨⟩, d₁, wrote, rest⟩ := Step.run_bind_eq_ok.mp done
    obtain ⟨-, other, rfl⟩ := Disk.write_inside_eq_ok proper (run_ofOperation_eq_ok.mp wrote)
    obtain ⟨here, holds, same⟩ := ih others rest
    change ∀ l, (∀ g ∈ contents, l ≠ d.place staging ++ [g.1]) → _ at same
    refine ⟨here, List.forall_mem_cons.mpr ⟨?_, holds⟩, fun l different => ?_⟩
    · rw [same _ fun g member => append_singleton_ne (new g member).symm,
        Disk.entry?_put_self (Disk.ne_nil_of_not_directory other)]
    · obtain ⟨first, later⟩ := List.forall_mem_cons.mp different
      rw [same l later, Disk.entry?_put_of_ne first]

/-- One of the staged files is put into place; the others still stand in the staging directory. -/
theorem entries_of_move {f : String × Octets} (named : NamedProperly (f :: contents))
    (staged : d.HoldsFiles (d.place staging) (f :: contents))
    (moved : d.move (inside staging f.1) (inside directory f.1) = .ok d') :
    d'.here = d.here ∧ d'.HoldsFiles (d.place staging) contents ∧
      d'.entry? (d.place directory ++ [f.1]) = some (.file f.2) ∧
      ∀ l, l ≠ d.place staging ++ [f.1] → l ≠ d.place directory ++ [f.1] →
        d'.entry? l = d.entry? l := by
  obtain ⟨proper, new, -⟩ := named.of_cons
  obtain ⟨first, others⟩ := List.forall_mem_cons.mp staged
  obtain ⟨-, other, e, standing, rfl⟩ := Disk.move_inside_eq_ok proper moved
  rw [first] at standing
  cases standing
  have same (l : Location) (source : l ≠ d.place staging ++ [f.1])
      (target : l ≠ d.place directory ++ [f.1]) :
      Disk.entry? ((d.erase (d.place staging ++ [f.1])).put (d.place directory ++ [f.1])
        (.file f.2)) l = d.entry? l := by
    rw [Disk.entry?_put_of_ne target, Disk.entry?_erase_of_ne source]
  refine ⟨rfl, fun g member => ?_, Disk.entry?_put_self (by simp) _, same⟩
  have different := new g member
  rw [same _ (append_singleton_ne different) (append_singleton_ne different), others g member]

/-- Moving them changes the staged files and their targets only. -/
theorem treeChangedOnlyAt_moveAll (changed : TreeChangedOnlyAt dirs files d₀ d)
    (named : NamedProperly contents) (staged : d.HoldsFiles (d₀.place staging) contents)
    (from_allowed : ∀ f ∈ contents, files (d₀.place staging ++ [f.1]))
    (allowed : ∀ f ∈ contents, files (d₀.place directory ++ [f.1])) :
    TreeChangedOnlyAt dirs files d₀
      ((moveAll staging directory (contents.map Prod.fst)).run.run d).2 := by
  induction contents generalizing d with
  | nil => exact changed
  | cons f contents ih =>
    obtain ⟨from_first, from_others⟩ := List.forall_mem_cons.mp from_allowed
    obtain ⟨first, others⟩ := List.forall_mem_cons.mp allowed
    change TreeChangedOnlyAt dirs files d₀
      ((move (inside staging f.1) (inside directory f.1) >>= fun _ =>
      moveAll staging directory (contents.map Prod.fst)).run.run d).2
    rcases moved : (move (inside staging f.1) (inside directory f.1)).run.run d with ⟨result, d₁⟩
    cases result with
    | error fault =>
      rw [Step.run_bind_of_error moved, unchanged_of_ofOperation moved]
      exact changed
    | ok done =>
      have one := run_ofOperation_eq_ok.mp moved
      have next := changed.move named.of_cons.1 (staged f List.mem_cons_self) from_first first one
      rw [← changed.within.keeps.place_eq] at staged
      obtain ⟨-, still, -, -⟩ := entries_of_move named staged one
      rw [changed.within.keeps.place_eq] at still
      rw [Step.run_bind_of_ok moved]
      exact ih next named.of_cons.2.2 still from_others others

/-- When all moves are done, the files stand in the directory, and nothing else has changed but the
staging directory. -/
theorem entries_of_moveAll (named : NamedProperly contents)
    (staged : d.HoldsFiles (d.place staging) contents)
    (done : (moveAll staging directory (contents.map Prod.fst)).run.run d = (.ok (), d')) :
    d'.HoldsFiles (d.place directory) contents ∧
      ∀ l, (∀ f ∈ contents, l ≠ d.place staging ++ [f.1] ∧ l ≠ d.place directory ++ [f.1]) →
        d'.entry? l = d.entry? l := by
  induction contents generalizing d with
  | nil =>
    cases done
    exact ⟨fun _ none => (nomatch none), fun _ _ => rfl⟩
  | cons f contents ih =>
    obtain ⟨⟨⟩, d₁, moved, rest⟩ := Step.run_bind_eq_ok.mp done
    obtain ⟨proper, new, others⟩ := named.of_cons
    obtain ⟨here, still, first, same⟩ := entries_of_move named staged
      (run_ofOperation_eq_ok.mp moved)
    rw [← Disk.place_congr here] at still
    obtain ⟨holds, unchanged⟩ := ih others still rest
    rw [Disk.place_congr here] at holds
    rw [Disk.place_congr here, Disk.place_congr here] at unchanged
    refine ⟨List.forall_mem_cons.mpr ⟨?_, holds⟩, fun l different => ?_⟩
    · rw [unchanged _ fun g member => ⟨append_singleton_ne (new g member).symm,
        append_singleton_ne (new g member).symm⟩, first]
    · obtain ⟨one, later⟩ := List.forall_mem_cons.mp different
      rw [unchanged l later, same l one.1 one.2]

/-- Each file could be put into place: its name leads somewhere, and no directory is there. -/
theorem target_of_moveAll (named : NamedProperly contents)
    (staged : d.HoldsFiles (d.place staging) contents)
    (done : (moveAll staging directory (contents.map Prod.fst)).run.run d = (.ok (), d')) :
    ∀ f ∈ contents, (∃ d₁ l, Disk.locateFor d₁ (inside directory f.1) = .ok l) ∧
      d.entry? (d.place directory ++ [f.1]) ≠ some .directory := by
  induction contents generalizing d with
  | nil => exact fun _ none => (nomatch none)
  | cons f contents ih =>
    obtain ⟨⟨⟩, d₁, moved, rest⟩ := Step.run_bind_eq_ok.mp done
    obtain ⟨proper, new, others⟩ := named.of_cons
    have one := run_ofOperation_eq_ok.mp moved
    obtain ⟨here, still, first, same⟩ := entries_of_move named staged one
    obtain ⟨led, other, -⟩ := Disk.move_inside_eq_ok proper one
    rw [← Disk.place_congr here] at still
    refine List.forall_mem_cons.mpr ⟨⟨⟨d, _, led⟩, other⟩, fun g member => ?_⟩
    obtain ⟨leads, free⟩ := ih others still rest g member
    have different := new g member
    rw [Disk.place_congr here, same _ (append_singleton_ne different)
      (append_singleton_ne different)] at free
    exact ⟨leads, free⟩

end Action

end Files

end ModelForge
