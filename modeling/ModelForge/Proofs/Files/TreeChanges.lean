import ModelForge.Proofs.Files.ChangedOnlyAt

/-! # Files below a directory, and removing it

Files are written below a directory and moved from there to another one, and the directory is
removed with what is left in it. That keeps a disk a tree, and a directory that was made where
nothing stood is removed without a trace (`ModelForge.Disk.ChangedOnlyAt.removeTree`).
-/

namespace ModelForge

namespace Disk

open Files

variable {d₀ d d' d'' : Disk} {p q : Path} {l m : Location} {dirs files : Location → Prop}
  {name : String} {content : Octets} {contents : List (String × Octets)}

/-- Changes one after the other are changes at the same places. -/
theorem ChangedOnlyAt.trans (first : ChangedOnlyAt dirs files d d')
    (second : ChangedOnlyAt dirs files d' d'') :
    ChangedOnlyAt dirs files d d'' := by
  refine ⟨first.keeps.trans second.keeps, fun l elsewhere => ?_⟩
  rcases second.entries l elsewhere with same | ⟨inside, none, made⟩
  · rw [same]
    exact first.entries l elsewhere
  · exact .inr ⟨inside, first.none_of_none elsewhere none, made⟩

/-! ## Removing a directory -/

theorem lookup_filter (keep : Location → Bool) (entries : List (Location × Entry)) :
    (entries.filter fun x => keep x.1).lookup m =
      if keep m = true then entries.lookup m else none := by
  induction entries with
  | nil => simp
  | cons first entries ih =>
    obtain ⟨n, entry⟩ := first
    by_cases same : m = n
    · subst same
      by_cases kept : keep m = true
      · simp [kept]
      · simp [kept, ih]
    · by_cases kept : keep n = true
      · simp [kept, List.lookup_cons, beq_eq_false_iff_ne.mpr same, ih]
      · simp [kept, List.lookup_cons, beq_eq_false_iff_ne.mpr same, ih]

theorem here_removeTree (d : Disk) (p : Path) : (d.removeTree p).here = d.here := by
  unfold removeTree
  split <;> rfl

/-- What stands at a location or below it is gone, and everything else stays. -/
theorem entry?_removeTree (led : d.locate p = .ok l) (below_root : l ≠ []) (m : Location) :
    Disk.entry? (d.removeTree p) m = if l <+: m then none else d.entry? m := by
  have kept : (m ≠ l && !isBelow l m) = true ↔ ¬l <+: m := by
    unfold isBelow
    by_cases same : m = l
    · simp [same]
    · simp [same, Ne.symm same, ← List.isPrefixOf_iff_prefix]
  unfold removeTree
  rw [led]
  unfold entry?
  dsimp only
  rw [lookup_filter fun x => x ≠ l && !isBelow l x]
  by_cases root : m = []
  · simp [root, below_root]
  · rw [if_neg root, if_neg root]
    by_cases below : l <+: m
    · rw [if_neg fun stays => kept.mp stays below, if_pos below]
    · rw [if_pos (kept.mpr below), if_neg below]

/-- Removing a tree keeps files in directories. -/
theorem IsTree.removeTree (tree : d.IsTree) (led : d.locate p = .ok l) (below_root : l ≠ []) :
    (d.removeTree p).IsTree := by
  intro m name standing
  rw [entry?_removeTree led below_root] at standing ⊢
  by_cases below : l <+: m ++ [name]
  · simp [below] at standing
  · rw [if_neg below] at standing
    rw [if_neg fun inside => below (inside.trans (List.prefix_append _ _))]
    exact tree _ _ standing

/-- A directory that was made in a free place is removed without a trace. -/
theorem ChangedOnlyAt.removeTree (tree : d₀.IsTree) (led : d₀.locate p = .ok l)
    (free : d₀.entry? l = none) (within : ChangedOnlyAt dirs (fun m => files m ∨ l <+: m) d₀ d) :
    ChangedOnlyAt dirs files d₀ (d.removeTree p) := by
  have other := ne_directory_of_none free
  have empty (m : Location) (below : l <+: m) : d₀.entry? m = none := by
    obtain ⟨names, rfl⟩ := below
    by_cases same : names = []
    · simp [same, free]
    · exact tree.entry?_below other names same
  have entries := entry?_removeTree (locate_of_keepsDirectories within.keeps led)
    (ne_nil_of_not_directory other)
  refine ⟨⟨(here_removeTree d p).trans within.keeps.here, fun m there => ?_⟩,
    fun m elsewhere => ?_⟩
  · have outside : ¬l <+: m := fun below => ne_directory_of_none (empty m below) there
    rw [entries, if_neg outside]
    exact within.keeps.directories m there
  · rw [entries]
    by_cases below : l <+: m
    · rw [if_pos below]
      exact .inl (empty m below).symm
    · rw [if_neg below]
      exact within.entries m (not_or.mpr ⟨elsewhere, below⟩)

/-! ## Files below a directory -/

/-- Files stand below a place. -/
def HoldsFiles (d : Disk) (l : Location) (contents : List (String × Octets)) : Prop :=
  ∀ f ∈ contents, d.entry? (l ++ [f.1]) = some (.file f.2)

/-- Files stay where no place of theirs was changed. -/
theorem HoldsFiles.of_changedOnlyAt (holds : d.HoldsFiles l contents)
    (within : ChangedOnlyAt dirs files d d') (elsewhere : ∀ f ∈ contents, ¬files (l ++ [f.1])) :
    d'.HoldsFiles l contents :=
  fun f member => (within.file_iff (elsewhere f member)).mpr (holds f member)

/-- What it takes to write a file in a directory. -/
theorem write_inside_eq_ok (proper : name ≠ "..")
    (written : d.write (inside p name) content = .ok d') :
    d.entry? (d.place p) = some .directory ∧ d.entry? (d.place p ++ [name]) ≠ some .directory ∧
      d' = d.put (d.place p ++ [name]) (.file content) := by
  obtain ⟨l, led, other, rfl⟩ := write_eq_ok written
  obtain ⟨-, -, there, -, rfl⟩ := locate_inside_eq_ok.mp led
  rw [onward_of_ne proper] at other ⊢
  exact ⟨there, other, rfl⟩

/-- What it takes to move a file from one directory to another. -/
theorem move_inside_eq_ok (proper : name ≠ "..")
    (moved : d.move (inside p name) (inside q name) = .ok d') :
    d.locateFor (inside q name) = .ok (d.place q ++ [name]) ∧
      d.entry? (d.place q ++ [name]) ≠ some .directory ∧
      ∃ entry, d.entry? (d.place p ++ [name]) = some entry ∧
        d' = (d.erase (d.place p ++ [name])).put (d.place q ++ [name]) entry := by
  obtain ⟨free, s, t, e, source, target, standing, other, rfl⟩ := move_eq_ok moved
  have from_place := place_of_locate source
  have to_place := place_of_locate target
  rw [place_inside_of_ne proper] at from_place to_place
  subst from_place to_place
  exact ⟨locateFor_eq_ok.mpr ⟨free, target⟩, other, e, standing, rfl⟩

/-- Little has changed, and the disk is still a tree. -/
structure TreeChangedOnlyAt (dirs files : Location → Prop) (d d' : Disk) : Prop where
  within : ChangedOnlyAt dirs files d d'
  tree : d'.IsTree

theorem TreeChangedOnlyAt.refl (tree : d.IsTree) : TreeChangedOnlyAt dirs files d d :=
  ⟨.refl _ _ d, tree⟩

theorem TreeChangedOnlyAt.mono {dirs' files' : Location → Prop}
    (changed : TreeChangedOnlyAt dirs files d d') (more : ∀ l, dirs l → dirs' l)
    (others : ∀ l, files l → files' l) :
    TreeChangedOnlyAt dirs' files' d d' :=
  ⟨changed.within.mono more others, changed.tree⟩

/-- A file may be written at an allowed place. -/
theorem TreeChangedOnlyAt.write (changed : TreeChangedOnlyAt dirs files d₀ d) (proper : name ≠ "..")
    (allowed : files (d₀.place p ++ [name])) (written : d.write (inside p name) content = .ok d') :
    TreeChangedOnlyAt dirs files d₀ d' := by
  obtain ⟨there, other, rfl⟩ := write_inside_eq_ok proper written
  rw [changed.within.keeps.place_eq] at there other ⊢
  exact ⟨changed.within.put allowed other _, changed.tree.put there other _⟩

/-- Directories may be made on an allowed way. -/
theorem TreeChangedOnlyAt.makeDirectories (changed : TreeChangedOnlyAt dirs files d₀ d)
    (way : ∀ l, d₀.Way p l → dirs l) :
    TreeChangedOnlyAt dirs files d₀ (d.makeDirectories p.root p.parts).2 :=
  ⟨changedOnlyAt_makeDirectories changed.within way, changed.tree.makeDirectories⟩

/-- A file that is moved from one directory to another. -/
theorem TreeChangedOnlyAt.move (changed : TreeChangedOnlyAt dirs files d₀ d) (proper : name ≠ "..")
    (staged : d.entry? (d₀.place p ++ [name]) = some (.file content))
    (from_allowed : files (d₀.place p ++ [name])) (allowed : files (d₀.place q ++ [name]))
    (moved : d.move (inside p name) (inside q name) = .ok d') :
    TreeChangedOnlyAt dirs files d₀ d' := by
  obtain ⟨led, other, e, -, rfl⟩ := move_inside_eq_ok proper moved
  obtain ⟨-, -, there, -, -⟩ := locate_inside_eq_ok.mp (locateFor_eq_ok.mp led).2
  rw [changed.within.keeps.place_eq] at other there ⊢
  rw [changed.within.keeps.place_eq]
  have file : d.entry? (d₀.place p ++ [name]) ≠ some .directory := by
    rw [staged]
    exact fun no => (nomatch no)
  have erased : Disk.entry? (d.erase (d₀.place p ++ [name])) (d₀.place q ++ [name]) ≠
      some .directory := by
    by_cases same : d₀.place q ++ [name] = d₀.place p ++ [name]
    · rw [same, entry?_erase_self (ne_nil_of_not_directory file)]
      exact fun no => (nomatch no)
    · rwa [entry?_erase_of_ne same]
  exact ⟨(changed.within.erase from_allowed file).put allowed erased e,
    (changed.tree.erase file).put ((keepsDirectories_erase file).directories _ there) erased e⟩

/-- The name of a directory and those of files below it lead somewhere wherever the directory is. -/
theorem locateFor_inside (led : d.locateFor (inside p name) = .ok l)
    (there : d'.isDirectory p = .ok true) :
    d'.locateFor (inside p name) = .ok (onward (d'.place p) name) := by
  obtain ⟨free, led⟩ := locateFor_eq_ok.mp led
  obtain ⟨short, -, -, small, -⟩ := locate_inside_eq_ok.mp led
  obtain ⟨above, standing⟩ := isDirectory_eq_true.mp there
  obtain ⟨-, passable, -⟩ := locate_eq_ok.mp (locateFor_eq_ok.mp above).2
  exact locateFor_eq_ok.mpr ⟨free, locate_inside_eq_ok.mpr
    ⟨short, passable, standing, small, rfl⟩⟩

/-- A file below a directory is read if its name leads anywhere at all. -/
theorem read_inside (proper : name ≠ "..") (led : d.locateFor (inside p name) = .ok l)
    (there : d'.isDirectory p = .ok true)
    (standing : d'.entry? (d'.place p ++ [name]) = some (.file content)) :
    d'.read (inside p name) = .ok content := by
  obtain ⟨free, led⟩ := locateFor_eq_ok.mp (locateFor_inside led there)
  rw [onward_of_ne proper] at led
  exact read_of_file free led standing

end Disk

end ModelForge
