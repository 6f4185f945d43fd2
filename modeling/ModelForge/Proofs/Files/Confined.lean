import ModelForge.Proofs.Files.Staging
import ModelForge.Proofs.Program

/-! # Actions that are confined to some directories

An action is confined to some directories if every operation in it, down to the files and
directories that it only makes for a while, names a place below one of them; missing directories may
also be made on the way to them (`ModelForge.Files.Action.Confined`). Replacing a file and
publishing files below such a directory is confined to it
(`ModelForge.Files.Action.confined_replaceFile`, `ModelForge.Files.Action.confined_publish`). A
confined action leaves everything else as it was (`ModelForge.Files.Action.Confined.preserves`).
-/

namespace ModelForge

namespace Disk

open Files

variable {d d' d₀ : Disk} {p root : Path} {roots : List Path} {l m : Location} {name : String}
  {names more : List String} {entry : Entry}

/-! ## Places below some directories -/

/-- A place below one of some directories. -/
def Below (d : Disk) (roots : List Path) (l : Location) : Prop :=
  ∃ root ∈ roots, ∃ name rest, l = d.place root ++ name :: rest

/-- The place of one of some directories, or one that the path of such a directory goes through. -/
def Above (d : Disk) (roots : List Path) (l : Location) : Prop := ∃ root ∈ roots, d.Way root l

/-- What stands below something below a root stands below the root. -/
theorem Below.of_prefix (below : d.Below roots l) (above : l <+: m) : d.Below roots m := by
  obtain ⟨root, member, name, rest, rfl⟩ := below
  obtain ⟨more, rfl⟩ := above
  exact ⟨root, member, name, rest ++ more, by rw [List.append_assoc, List.cons_append]⟩

theorem Below.ne_nil (below : d.Below roots l) : l ≠ [] := by
  obtain ⟨root, -, name, rest, rfl⟩ := below
  simp

/-- At most what stands below some directories has changed, and missing directories have been made
on the way to them. -/
structure OnlyBelow (roots : List Path) (d₀ d : Disk) : Prop where
  here : d.here = d₀.here
  elsewhere : ∀ l, ¬d₀.Below roots l → d.entry? l = d₀.entry? l ∨
    d₀.Above roots l ∧ d₀.entry? l = none ∧ d.entry? l = some .directory

namespace OnlyBelow

theorem refl (roots : List Path) (d : Disk) : OnlyBelow roots d d := ⟨rfl, fun _ _ => .inl rfl⟩

/-- Whatever is done below the directories, the rest is as it was. -/
theorem step (only : OnlyBelow roots d₀ d) (here : d'.here = d.here)
    (same : ∀ m, ¬d₀.Below roots m → d'.entry? m = d.entry? m) : OnlyBelow roots d₀ d' := by
  refine ⟨here.trans only.here, fun m outside => ?_⟩
  rw [same m outside]
  exact only.elsewhere m outside

/-- An entry may be put below a root. -/
theorem put (only : OnlyBelow roots d₀ d) (below : d₀.Below roots l) (entry : Entry) :
    OnlyBelow roots d₀ (d.put l entry) := by
  apply only.step
  · rfl
  · intro m outside
    apply entry?_put_of_ne
    rintro rfl
    exact outside below

/-- An entry may be removed below a root. -/
theorem erase (only : OnlyBelow roots d₀ d) (below : d₀.Below roots l) :
    OnlyBelow roots d₀ (d.erase l) := by
  apply only.step
  · rfl
  · intro m outside
    apply entry?_erase_of_ne
    rintro rfl
    exact outside below

/-- A whole tree may be removed below a root. -/
theorem removeTree (only : OnlyBelow roots d₀ d) (below : d₀.Below roots (d₀.place p)) :
    OnlyBelow roots d₀ (d.removeTree p) := by
  apply only.step (here_removeTree d p)
  intro m outside
  cases led : d.locate p with
  | error r =>
    unfold Disk.removeTree
    rw [led]
  | ok l =>
    have same := place_of_locate led
    rw [place_congr only.here] at same
    subst same
    rw [entry?_removeTree led below.ne_nil]
    exact if_neg fun within => outside (below.of_prefix within)

/-- A missing directory is made on the way to one of the directories or below it. -/
theorem put_directory (only : OnlyBelow roots d₀ d)
    (inside : d₀.Above roots l ∨ d₀.Below roots l) (free : d.entry? l = none) :
    OnlyBelow roots d₀ (d.put l .directory) := by
  rcases inside with above | below
  · refine ⟨only.here, fun m outside => ?_⟩
    by_cases same : m = l
    · subst same
      rw [entry?_put_self (ne_nil_of_not_directory (ne_directory_of_none free))]
      rcases only.elsewhere m outside with kept | ⟨-, -, made⟩
      · exact .inr ⟨above, kept.symm.trans free, rfl⟩
      · rw [free] at made
        cases made
    · rw [entry?_put_of_ne same]
      exact only.elsewhere m outside
  · exact only.put below _

end OnlyBelow

/-! ## Paths below a directory -/

/-- The path of some names below a directory. -/
def beneath (root : Path) (names : List String) : Path := root.append (.ofParts names)

theorem beneath_nil (root : Path) : beneath root [] = root := by
  change (⟨root.root, root.parts ++ []⟩ : Path) = root
  rw [List.append_nil]

theorem beneath_append (root : Path) (names more : List String) :
    beneath root (names ++ more) = beneath (beneath root names) more := by
  change (⟨root.root, root.parts ++ (names ++ more)⟩ : Path) = ⟨root.root, _⟩
  rw [← List.append_assoc]
  rfl

/-- A file in a directory beneath a root is beneath it. -/
theorem inside_beneath (root : Path) (names : List String) (name : String) :
    inside (beneath root names) name = beneath root (names ++ [name]) :=
  (beneath_append root names [name]).symm

theorem parent_beneath (root : Path) (names : List String) (name : String) :
    (beneath root (names ++ [name])).parent = beneath root names := by
  change (⟨root.root, (root.parts ++ (names ++ [name])).dropLast⟩ : Path) = ⟨root.root, _⟩
  rw [← List.append_assoc, List.dropLast_concat]
  rfl

theorem name_beneath (root : Path) (names : List String) (name : String) :
    (beneath root (names ++ [name])).name = name := by
  change ((root.parts ++ (names ++ [name])).getLast?).getD "" = name
  rw [← List.append_assoc, List.getLast?_concat]
  rfl

/-- A path beneath a root has its place below that of the root. -/
theorem place_beneath (plain : ".." ∉ names) (d : Disk) (root : Path) :
    d.place (beneath root names) = d.place root ++ names := by
  unfold place beneath
  exact List.foldl_append.trans (foldl_onward plain _)

/-- A path of at least one name beneath a root is below it. -/
theorem below_beneath (member : root ∈ roots) (plain : ".." ∉ names) (some_name : names ≠ [])
    (d : Disk) : d.Below roots (d.place (beneath root names)) := by
  obtain ⟨name, rest, rfl⟩ := List.exists_cons_of_ne_nil some_name
  exact ⟨root, member, name, rest, place_beneath plain d root⟩

/-- The path of names below a directory goes through what is above the directory and below it. -/
theorem way_beneath (member : root ∈ roots) (plain : ".." ∉ names)
    (way : d.Way (beneath root names) l) : d.Above roots l ∨ d.Below roots l := by
  induction names using List.reverseRecOn with
  | nil =>
    rw [beneath_nil] at way
    exact .inl ⟨root, member, way⟩
  | append_singleton names name ih =>
    have plain_above : ".." ∉ names := fun inside => plain (List.mem_append_left _ inside)
    rw [beneath_append] at way
    rcases way_inside way with above | last
    · exact ih plain_above above
    · rw [← place_inside, inside_beneath] at last
      rw [last]
      exact .inr (below_beneath member plain (by simp) d)

/-- The place of a path is free of steps back if the place that relative paths start from is. -/
theorem parent_not_mem_place (resolved : ".." ∉ d.here) (p : Path) : ".." ∉ d.place p := by
  have going (names : List String) (base : Location) (plain : ".." ∉ base) :
      ".." ∉ names.foldl onward base := by
    induction names generalizing base with
    | nil => exact plain
    | cons name names ih =>
      apply ih
      unfold onward
      split
      · exact fun inside => plain ((List.dropLast_sublist base).subset inside)
      · next proper =>
        rw [List.mem_append, List.mem_singleton]
        exact fun inside => inside.elim plain fun same => proper same.symm
  apply going
  unfold start
  split
  · exact List.not_mem_nil
  · exact resolved

theorem place_slash (plain : ".." ∉ l) (d : Disk) : d.place ⟨.slash, l⟩ = l :=
  foldl_onward plain []

end Disk

namespace Files

namespace Action

open Disk (OnlyBelow beneath inside)

variable {α : Type} {d d' d₀ : Disk} {p root staging : Path} {roots : List Path} {name : String}
  {names : List String} {contents : List (String × Octets)}

/-! ## Confined actions -/

/-- The operations on files and directories below some directories. -/
inductive Operation (d₀ : Disk) (roots : List Path) : (α : Type) → Action α → Prop where
  | makeDirectories {p : Path} (way : ∀ l, d₀.Way p l → d₀.Above roots l ∨ d₀.Below roots l) :
      Operation d₀ roots Unit (makeDirectories p)
  | makeDirectory {p : Path} (below : d₀.Below roots (d₀.place p)) :
      Operation d₀ roots Unit (makeDirectory p)
  | createFile {p : Path} (below : d₀.Below roots (d₀.place p)) :
      Operation d₀ roots Unit (createFile p)
  | write {p : Path} (below : d₀.Below roots (d₀.place p)) (content : Octets) :
      Operation d₀ roots Unit (write p content)
  | move {source target : Path} (from_below : d₀.Below roots (d₀.place source))
      (below : d₀.Below roots (d₀.place target)) : Operation d₀ roots Unit (move source target)
  | removeFile {p : Path} (below : d₀.Below roots (d₀.place p)) :
      Operation d₀ roots Unit (removeFile p)
  | removeTree {p : Path} (below : d₀.Below roots (d₀.place p)) :
      Operation d₀ roots Unit (removeTree p)

/-- From every disk on which relative paths start where they do on a given one, each operation of an
action names only places below some directories; missing directories may be made on the way to
them. -/
abbrev Confined (d₀ : Disk) (roots : List Path) (x : Action α) : Prop :=
  Step.Program (Operation d₀ roots) (fun d => d.here = d₀.here) x

/-- An operation below some directories leaves the rest as it was. -/
theorem Operation.preserves {x : Action α} (operation : Operation d₀ roots α x) :
    Step.Preserves (OnlyBelow roots d₀) (fun _ => True) x := by
  cases operation with
  | makeDirectories way =>
    refine Step.preserves_of_kept fun d only => ?_
    rw [run_makeDirectories]
    refine Disk.makeDirectories_induction only fun d d' parts above only made => ?_
    obtain ⟨-, -, free, rfl⟩ := Disk.makeDirectory_eq_ok made
    rw [Disk.place_congr only.here] at free ⊢
    exact only.put_directory (way _ ⟨parts, above, rfl⟩) free
  | makeDirectory below =>
    refine preserves_ofOperation fun d d' only made => ?_
    obtain ⟨-, -, -, rfl⟩ := Disk.makeDirectory_eq_ok made
    rw [Disk.place_congr only.here]
    exact only.put below _
  | createFile below =>
    refine preserves_ofOperation fun d d' only created => ?_
    obtain ⟨-, -, rfl⟩ := createFile_eq_ok created
    rw [Disk.place_congr only.here]
    exact only.put below _
  | write below content =>
    refine preserves_ofOperation fun d d' only written => ?_
    obtain ⟨l, led, -, rfl⟩ := Disk.write_eq_ok written
    rw [Disk.place_of_locate led, Disk.place_congr only.here]
    exact only.put below _
  | move from_below below =>
    refine preserves_ofOperation fun d d' only moved => ?_
    obtain ⟨-, s, t, e, from_source, to_target, -, -, rfl⟩ := Disk.move_eq_ok moved
    rw [Disk.place_of_locate from_source, Disk.place_of_locate to_target,
      Disk.place_congr only.here, Disk.place_congr only.here]
    exact (only.erase from_below).put below _
  | @removeFile p below =>
    refine Step.preserves_of_kept fun d only => ?_
    change OnlyBelow roots d₀ (d.removeFile p)
    unfold Disk.removeFile
    split
    · next l led =>
      split
      · rw [Disk.place_of_locate led, Disk.place_congr only.here]
        exact only.erase below
      · exact only
    · exact only
  | removeTree below => exact Step.preserves_of_kept fun d only => only.removeTree below

/-- A confined action leaves the rest as it was. -/
theorem Confined.preserves {x : Action α} (confined : Confined d₀ roots x) :
    Step.Preserves (OnlyBelow roots d₀) (fun _ => True) x :=
  Step.Program.preserves confined (fun _ only => only.here) fun _ _ operation => operation.preserves

/-! ## Looking for places -/

theorem confined_locate (p : Path) : Confined d₀ roots (locate p) := by
  unfold locate
  refine Step.Program.get.bind fun d d' _ _ _ => ?_
  split
  · exact .pure _
  · exact .throw _

/-- Where a path was found is its place. -/
theorem place_of_run_locate {l : Location} (found : (locate p).run.run d = (.ok l, d')) :
    l = d.place p := by
  rw [run_locate] at found
  exact Disk.place_of_locate (Disk.locateFor_eq_ok.mp (Prod.mk.inj found).1).2

/-- Making directories beneath a root is confined to it. -/
theorem confined_makeDirectories (member : root ∈ roots) (plain : ".." ∉ names) :
    Confined d₀ roots (makeDirectories (beneath root names)) :=
  .step (.makeDirectories fun _ way => Disk.way_beneath member plain way)

/-! ## Replacing a file -/

theorem besideName_ne (target token : String) : besideName target token ≠ ".." := by
  intro same
  have letters := congrArg (fun s => s.toList.reverse) same
  unfold besideName at letters
  simp only [String.toList_append, List.reverse_append] at letters
  cases letters

/-- Replacing a file below a directory is confined to it: the new content is written to a file
beside the target. -/
theorem confined_replaceFile (resolved : ".." ∉ d₀.here) (member : root ∈ roots)
    (plain : ".." ∉ names ++ [name]) (content : Octets) :
    Confined d₀ roots (replaceFile (beneath root (names ++ [name])) content) := by
  have plain_above : ".." ∉ names := fun inside => plain (List.mem_append_left _ inside)
  have target : d₀.Below roots (d₀.place (beneath root (names ++ [name]))) :=
    Disk.below_beneath member plain (by simp) d₀
  unfold replaceFile
  rw [Disk.parent_beneath, Disk.name_beneath]
  refine (confined_makeDirectories member plain_above).bind fun _ _ _ _ _ => ?_
  refine (confined_locate _).bind fun d l d' here found => ?_
  refine Step.Program.get.bind fun d₁ d₂ _ _ _ => ?_
  have led := place_of_run_locate found
  rw [Disk.place_congr here, Disk.place_beneath plain_above] at led
  have beside : d₀.Below roots
      (d₀.place ⟨.slash, l ++ [d₂.freshName l (besideName name)]⟩) := by
    have proper : ".." ∉ l ++ [d₂.freshName l (besideName name)] := by
      rw [List.mem_append, List.mem_singleton, led]
      rintro (above | same)
      · rw [← Disk.place_beneath plain_above] at above
        exact Disk.parent_not_mem_place resolved _ above
      · exact besideName_ne _ _ same.symm
    rw [Disk.place_slash proper, led, List.append_assoc]
    cases names with
    | nil => exact ⟨root, member, _, [], rfl⟩
    | cons first rest => exact ⟨root, member, first, rest ++ _, rfl⟩
  refine (Step.Program.step (.createFile beside)).bind fun _ _ _ _ _ => ?_
  refine .tryCatch ?_ fun f => ?_
  · exact (Step.Program.step (.write beside content)).bind fun _ _ _ _ _ =>
      .step (.move beside target)
  · exact (Step.Program.step (.removeFile beside)).bind fun _ _ _ _ _ => .throw f

/-! ## Publishing files -/

/-- Making a staging directory is confined to the directory it is made in. -/
theorem confined_makeStaging (member : root ∈ roots) : Confined d₀ roots (makeStaging root) := by
  unfold makeStaging
  refine (confined_locate root).bind fun _ l _ _ _ => ?_
  refine Step.Program.get.bind fun _ d _ _ _ => ?_
  have proper : ".." ∉ [d.freshName l stagingName] := by
    rw [List.mem_singleton]
    exact fun same => stagingName_ne _ same.symm
  have below : d₀.Below roots (d₀.place (beneath root [d.freshName l stagingName])) :=
    Disk.below_beneath member proper (List.cons_ne_nil _ _) d₀
  exact (Step.Program.step (.makeDirectory below)).map _

/-- Publishing files below a directory is confined to it, the staging directory included. -/
theorem confined_publish (member : root ∈ roots) (plain : ".." ∉ names)
    (proper : ∀ f ∈ contents, f.1 ≠ "..") :
    Confined d₀ roots (publish root (beneath root names) contents) := by
  have named {above : List String} (plain : ".." ∉ above) {name : String} (other : name ≠ "..") :
      d₀.Below roots (d₀.place (inside (beneath root above) name)) := by
    rw [Disk.inside_beneath]
    refine Disk.below_beneath member ?_ (by simp) d₀
    rw [List.mem_append, List.mem_singleton]
    exact fun inside => inside.elim plain fun same => other same.symm
  unfold publish
  have root_made : Confined d₀ roots (makeDirectories (beneath root [])) :=
    confined_makeDirectories member List.not_mem_nil
  rw [Disk.beneath_nil] at root_made
  refine root_made.bind fun _ _ _ _ _ => ?_
  refine (confined_makeStaging member).bind fun d staging d' _ made => ?_
  obtain ⟨⟨token, rfl⟩, -⟩ := makeStaging_eq_ok made
  have fresh : ".." ∉ [stagingName token] := by
    rw [List.mem_singleton]
    exact fun same => stagingName_ne token same.symm
  have below : d₀.Below roots (d₀.place (inside root (stagingName token))) :=
    Disk.below_beneath member fresh (List.cons_ne_nil _ _) d₀
  refine Step.Program.bind (.tryCatch ?_ fun f => ?_) fun _ _ _ _ _ => .step (.removeTree below)
  · refine Step.Program.bind ?_ fun _ _ _ _ _ => ?_
    · exact .forM fun f inside => .step (.write (named fresh (proper f inside)) f.2)
    · refine (confined_makeDirectories member plain).bind fun _ _ _ _ _ => ?_
      refine .forM fun name listed => ?_
      obtain ⟨f, inside, rfl⟩ := List.mem_map.mp listed
      exact .step (.move (named fresh (proper f inside)) (named plain (proper f inside)))
  · exact (Step.Program.step (.removeTree below)).bind fun _ _ _ _ _ => .throw f

end Action

end Files

end ModelForge
