import Mathlib.Logic.Relation
import ModelForge.Proofs.Graph.Coherence

/-! # A cache beside changing source files

Between the steps of building a cache, files may be edited: after a graph was rebuilt, after the
fingerprints were taken, and after the snapshot was put in place. Whatever the order of the steps, a
file at the path of the cache holds the elements of one of the rebuilt graphs and the fingerprints
of a later moment (`ModelForge.Scene.provenance_of_steps`). What is served is therefore what the
source files declare now if and only if it is what they declared when the fingerprints were taken;
an edit between the rebuild and that moment goes unnoticed for as long as nothing else is edited
(`ModelForge.Cache.current_of_served`).
-/

namespace ModelForge

open Files (Location)

/-- A graph that was rebuilt, and the disk as it was then. -/
structure Build where
  disk : Disk
  graph : Graph

/-- The text of a snapshot, and the disk as it was when the fingerprints were taken. -/
structure Draft where
  build : Build
  disk : Disk
  text : String

/-- The disk, and what has been rebuilt and drafted so far. -/
structure Scene where
  disk : Disk
  builds : List Build
  drafts : List Draft

namespace Scene

variable {all : RepositorySet} {path : Path} {sc sc' : Scene}

/-- A step of building a cache, or an edit of anything but the cache. The definitions of the
repositories do not change. -/
inductive Next [SetOrder] (all : RepositorySet) (path : Path) (sc : Scene) : Scene → Prop where
  | edit {d : Disk} (here : d.here = sc.disk.here)
      (kept : d.entry? (sc.disk.place path) = sc.disk.entry? (sc.disk.place path)) :
      Next all path sc { sc with disk := d }
  | rebuild {selected : List String} {cache : Cache} {l l' : Log} {miss : Option CacheMiss}
      {g : Graph} (done : Preparation.run sc.disk all selected cache l = (.ok g, miss, l'))
      (rebuilding : GraphState.rebuilding ∈ g.history) :
      Next all path sc { sc with builds := ⟨sc.disk, g⟩ :: sc.builds }
  | draft {b : Build} {text : String} (member : b ∈ sc.builds)
      (made : Cache.textOf sc.disk b.graph = .ok text) :
      Next all path sc { sc with drafts := ⟨b, sc.disk, text⟩ :: sc.drafts }
  | replace {m : Draft} {result : Except Files.Fault Unit} {d : Disk} (member : m ∈ sc.drafts)
      (replaced : (Files.Action.replaceFile path (Utf8.encode m.text)).run.run sc.disk =
        (result, d)) :
      Next all path sc { sc with disk := d }

/-- Nothing has been built yet, and no file stands where the cache is going to be. -/
structure Initial (path : Path) (sc : Scene) : Prop where
  builds : sc.builds = []
  drafts : sc.drafts = []
  file : ∀ content, sc.disk.entry? (sc.disk.place path) ≠ some (.file content)

/-- What is known at any time: graphs are what they were rebuilt from, drafts are made of them, and
a file at the path of the cache is one of the drafts. -/
structure Provenance [SetOrder] (all : RepositorySet) (path : Path) (sc : Scene) : Prop where
  builds : ∀ b ∈ sc.builds, ∃ selected s, all.subset selected = .ok s ∧
    Graph.Rebuilt b.disk s b.graph
  drafts : ∀ m ∈ sc.drafts, m.build ∈ sc.builds ∧
    Cache.textOf m.disk m.build.graph = .ok m.text
  file : ∀ content, sc.disk.entry? (sc.disk.place path) = some (.file content) →
    ∃ m ∈ sc.drafts, content = Utf8.encode m.text

/-- Before anything has been stored, all that is stored comes from a rebuild. -/
theorem Initial.provenance [SetOrder] (blank : Initial path sc) : Provenance all path sc where
  builds b member := by
    rw [blank.builds] at member
    cases member
  drafts m member := by
    rw [blank.drafts] at member
    cases member
  file content there := absurd there (blank.file content)

/-- Whether or not a file can be replaced, what stands there then is the new content or the old. -/
theorem file_of_replaceFile {content old : Octets} {result : Except Files.Fault Unit} {d d' : Disk}
    (replaced : (Files.Action.replaceFile path content).run.run d = (result, d'))
    (there : d'.entry? (d'.place path) = some (.file old)) :
    old = content ∨ d.entry? (d.place path) = some (.file old) := by
  cases result with
  | ok done =>
    obtain ⟨-, standing⟩ := Disk.read_eq_ok.mp (Files.Action.read_of_replaceFile replaced)
    cases there.symm.trans standing
    exact .inl rfl
  | error fault =>
    have within := Files.Action.changedOnlyAt_of_replaceFile_error replaced
    rw [within.keeps.place_eq] at there
    exact .inr ((within.file_iff id).mp there)

/-- Every step keeps where stored snapshots come from. -/
theorem Provenance.next [SetOrder] (sound : Provenance all path sc) (next : Next all path sc sc') :
    Provenance all path sc' := by
  cases next with
  | edit here kept =>
    refine ⟨sound.builds, sound.drafts, fun content there => ?_⟩
    dsimp only at there
    rw [Disk.place_congr here, kept] at there
    exact sound.file content there
  | rebuild done rebuilding =>
    refine ⟨fun b member => ?_, fun m member => ?_, sound.file⟩
    · rcases List.mem_cons.mp member with rfl | before
      · exact ⟨_, Graph.rebuilt_of_run done rebuilding⟩
      · exact sound.builds b before
    · obtain ⟨known, made⟩ := sound.drafts m member
      exact ⟨List.mem_cons_of_mem _ known, made⟩
  | draft member made =>
    refine ⟨sound.builds, fun m drafted => ?_, fun content there => ?_⟩
    · rcases List.mem_cons.mp drafted with rfl | before
      · exact ⟨member, made⟩
      · exact sound.drafts m before
    · obtain ⟨m, before, same⟩ := sound.file content there
      exact ⟨m, List.mem_cons_of_mem _ before, same⟩
  | replace member replaced =>
    refine ⟨sound.builds, sound.drafts, fun content there => ?_⟩
    rcases file_of_replaceFile replaced there with new | old
    · exact ⟨_, member, new⟩
    · exact sound.file content old

/-- Whatever the order of the steps, a file at the path of the cache is one of the drafts. -/
theorem provenance_of_steps [SetOrder] {start now : Scene} (blank : start.Initial path)
    (steps : Relation.ReflTransGen (Next all path) start now) : Provenance all path now := by
  induction steps with
  | refl => exact blank.provenance
  | tail _ next ih => exact ih.next next

/-- Storing a graph is drafting it and putting the draft in place, without a step in between. -/
theorem steps_of_store [SetOrder] {b : Build} {l : Log} {w : World} (member : b ∈ sc.builds)
    (stored : Run.perform (Cache.store b.graph path) ⟨sc.disk, l⟩ = (.ok (), w)) :
    ∃ text, Relation.ReflTransGen (Next all path) sc
      { sc with disk := w.disk, drafts := ⟨b, sc.disk, text⟩ :: sc.drafts } := by
  obtain ⟨text, d, made, replaced, rfl⟩ := Cache.store_eq_ok.mp stored
  have drafted : Next all path sc { sc with drafts := ⟨b, sc.disk, text⟩ :: sc.drafts } :=
    .draft member made
  exact ⟨text, .tail (.single drafted) (.replace List.mem_cons_self replaced)⟩

end Scene

namespace Preparation

variable {d d' : Disk} {all : RepositorySet} {selected : List String} {s : RepositorySet}
  {es : List Element}

/-- Compiling a selection from the source files on a disk gives these elements. -/
def Compiles [SetOrder] (d : Disk) (all : RepositorySet) (selected : List String)
    (es : List Element) : Prop :=
  ∀ log, ∃ g why log', run d all selected .none log = (.ok g, why, log') ∧ g.elements = es

/-- A selection compiles to elements exactly if a rebuild gives a graph of them. -/
theorem compiles_iff_rebuilt [SetOrder] (sub : all.subset selected = .ok s) :
    Compiles d all selected es ↔ ∃ g, Graph.Rebuilt d s g ∧ g.elements = es := by
  constructor
  · intro compiles
    obtain ⟨g, why, log', ran, elements⟩ := compiles .empty
    exact ⟨g, (Graph.rebuilt_of_run_none sub ran).1, elements⟩
  · rintro ⟨g, rebuilt, elements⟩ log
    obtain ⟨g', why, log', ran⟩ := (Graph.run_none_iff sub log).mpr rebuilt.wellFormed
    have alike := (Graph.rebuilt_of_run_none sub ran).1.sameButHistory rebuilt
    exact ⟨g', why, log', ran, alike.elements.trans elements⟩

/-- What a selection compiles to depends on the source trees only. -/
theorem compiles_of_tree [SetOrder] (sub : all.subset selected = .ok s)
    (unchanged : ∀ r ∈ s.members, r.tree d = r.tree d') (compiles : Compiles d all selected es) :
    Compiles d' all selected es := by
  obtain ⟨g, rebuilt, elements⟩ := (compiles_iff_rebuilt sub).mp compiles
  exact (compiles_iff_rebuilt sub).mpr ⟨g, rebuilt.of_tree unchanged, elements⟩

end Preparation

/-! ## An edit between the rebuild and the fingerprints -/

namespace Sample

attribute [local instance] SetOrder.asWritten

/-- The small source tree after the class of the other repository was given another name. -/
def edited : Disk :=
  ⟨[], [(["p"], .directory), (["q"], .directory),
    (["p", "a.pure.yaml"], .file (Utf8.encode
      "\x7b\"package\":\"p\",\"elements\":[\x7b\"kind\":\"class\",\"name\":\"A\"\x7d]\x7d")),
    (["q", "b.pure.yaml"], .file (Utf8.encode
      ("\x7b\"package\":\"q\",\"elements\":" ++
        "[\x7b\"kind\":\"class\",\"name\":\"C\",\"extends\":[\"p::A\"]\x7d]\x7d")))]⟩

/-- The world in which the snapshot is stored only after the edit. -/
def lateStored : World := (Run.perform (Cache.store graph snapshotPath) ⟨edited, .empty⟩).2

/-- The graph is stored after the edit. -/
theorem store_late :
    Run.perform (Cache.store graph snapshotPath) ⟨edited, .empty⟩ = (.ok (), lateStored) := by
  have computed : (Run.perform (Cache.store graph snapshotPath)
      ⟨edited, .empty⟩).1.toOption.isSome = true := by decide +kernel
  obtain ⟨⟨⟩, done⟩ := Result.exists_of_isSome computed
  exact Prod.ext done rfl

/-- After the edit a class refers to one that is gone. -/
theorem declares_edited : (∀ r ∈ repositories.members, r.Readable edited) ∧
    repositories.declares edited =
      [⟨"p::A", "platform", "/platform/a.pure.yaml", [], .classBody [] []⟩,
        ⟨"q::C", "q", "/q/b.pure.yaml", [], .classBody ["p::A"] []⟩] :=
  RepositorySet.declares_of_toOption _ (by decide +kernel)

/-- Storing leaves the edited source trees alone. -/
theorem tree_lateStored : ∀ r ∈ repositories.members, r.tree edited = r.tree lateStored.disk := by
  have computed : ∀ r ∈ repositories.members,
      (r.tree lateStored.disk).toOption = (r.tree edited).toOption := by decide +kernel
  intro r member
  obtain ⟨t, known⟩ := Repository.tree_of_readable (declares_edited.1 r member)
  have same := computed r member
  rw [known] at same
  rw [known, Result.toOption_eq_some.mp same]

/-- The graph is rebuilt, a file is edited, and the snapshot is stored. -/
theorem steps_late : ∃ g text, Graph.SameButHistory g graph ∧
    Run.perform (Cache.store g snapshotPath) ⟨edited, .empty⟩ = (.ok (), lateStored) ∧
    Relation.ReflTransGen (Scene.Next repositories snapshotPath) ⟨disk, [], []⟩
      ⟨lateStored.disk, [⟨disk, g⟩], [⟨⟨disk, g⟩, edited, text⟩]⟩ := by
  obtain ⟨g, miss, l', done, rebuilding, alike⟩ := exists_run
  have stored : Run.perform (Cache.store g snapshotPath) ⟨edited, .empty⟩ =
      (.ok (), lateStored) := by
    rw [Cache.store_of_sameButHistory alike]
    exact store_late
  have away : edited.entry? (disk.place snapshotPath) = disk.entry? (disk.place snapshotPath) := by
    decide
  obtain ⟨text, stores⟩ : ∃ text, Relation.ReflTransGen (Scene.Next repositories snapshotPath)
      ⟨edited, [⟨disk, g⟩], []⟩ ⟨lateStored.disk, [⟨disk, g⟩], [⟨⟨disk, g⟩, edited, text⟩]⟩ :=
    Scene.steps_of_store List.mem_cons_self stored
  have edits : Scene.Next repositories snapshotPath ⟨disk, [⟨disk, g⟩], []⟩
      ⟨edited, [⟨disk, g⟩], []⟩ := .edit (d := edited) rfl away
  exact ⟨g, text, alike, stored, .head (.rebuild done rebuilding) (.head edits stores)⟩

/-- The fingerprints in the snapshot are those of the edited files, which have not changed since. -/
theorem hydrate_late {g : Graph} (alike : Graph.SameButHistory g graph)
    (stored : Run.perform (Cache.store g snapshotPath) ⟨edited, .empty⟩ = (.ok (), lateStored)) :
    ∃ g', Cache.hydrate lateStored.disk (.file snapshotPath) (Graph.new repositories) =
      .ok (true, none, g') ∧ g'.elements = elements := by
  obtain ⟨current, known, read⟩ := Cache.read_of_store stored
  have valid : ∀ e ∈ g.elements, e.Valid := by
    rw [alike.elements]
    exact fun e => Graph.valid_of_rebuilt rebuilt_graph
  obtain ⟨-, whole, hits⟩ := Cache.hydrate_stored valid (RepositorySet.nodup_fingerprints known)
    read repositories
  have prints : repositories.fingerprints lateStored.disk = .ok current := by
    rw [← RepositorySet.fingerprints_eq_of_tree tree_lateStored declares_edited.1]
    rwa [alike.repositories] at known
  obtain ⟨miss, g', hydrated⟩ := hits.mpr ⟨current, prints, fun _ _ => Iff.rfl⟩
  obtain ⟨rfl, -, -, same⟩ := whole miss g' hydrated
  exact ⟨g', hydrated, same.trans alike.elements⟩

/-- What was stored is not what the edited sources compile to. -/
theorem not_compiles_late :
    ¬ Preparation.Compiles lateStored.disk repositories ["platform", "q"] elements := by
  intro compiles
  obtain ⟨g, rebuilt, same⟩ :=
    (Preparation.compiles_iff_rebuilt subset_repositories).mp compiles
  have declared := rebuilt.elements
  rw [same, ← (RepositorySet.declares_eq_of_tree tree_lateStored declares_edited.1).2,
    declares_edited.2] at declared
  exact absurd declared (by decide)

end Sample

/-! ## What is served -/

namespace Cache

open Preparation (Compiles)
open RepositorySet (FingerprintsSeparate)
open Scene (Next)

variable {d : Disk} {all s s' : RepositorySet} {selected : List String} {path : Path}
  {g g' : Graph} {miss : Option CacheMiss} {start now : Scene}

/-- Only a file can serve. -/
theorem file_of_hit (hydrated : hydrate d (.file path) g = .ok (true, miss, g')) :
    ∃ content, d.entry? (d.place path) = some (.file content) ∧ d.read path = .ok content := by
  cases read : d.read path with
  | ok content => exact ⟨content, (Disk.read_eq_ok.mp read).2, rfl⟩
  | error fault =>
    unfold hydrate at hydrated
    dsimp only at hydrated
    rw [read] at hydrated
    split at hydrated
    · cases hydrated
    · cases hydrated
    · cases hydrated
    · next no => cases no

/-- What a draft serves: its own elements, to the selection it was built for, where the fingerprints
are what they were when it was drafted. -/
theorem served_of_draft [SetOrder] {m : Draft} (drafted : textOf m.disk m.build.graph = .ok m.text)
    (rebuilt : Graph.Rebuilt m.build.disk s' m.build.graph)
    (read : d.read path = .ok (Utf8.encode m.text))
    (hydrated : hydrate d (.file path) (Graph.new s) = .ok (true, miss, g)) :
    g.elements = m.build.graph.elements ∧ ∃ current current',
      s'.fingerprints m.disk = .ok current ∧ s.fingerprints d = .ok current' ∧
      RepositorySet.SamePrints current current' := by
  obtain ⟨-, current, known, text⟩ := textOf_eq_ok.mp drafted
  rw [← text] at read
  obtain ⟨-, whole, hits⟩ := hydrate_stored (fun e => Graph.valid_of_rebuilt rebuilt)
    (RepositorySet.nodup_fingerprints known) read s
  obtain ⟨-, -, -, elements⟩ := whole miss g hydrated
  obtain ⟨current', known', same⟩ := hits.mp ⟨miss, g, hydrated⟩
  rw [rebuilt.repositories] at known
  exact ⟨elements, current, current', known, known', same⟩

/-- Whatever the steps of building a cache and the edits in between, what is served was compiled
from the source files as they were at some rebuild, and if the fingerprints tell the source trees
apart, the trees are now what they were when the fingerprints were taken. So compiling the sources
gives these elements now if and only if it would have given them at that moment; in particular, if
no source file was edited between the rebuild and that moment. -/
theorem current_of_served [SetOrder] (blank : start.Initial path)
    (steps : Relation.ReflTransGen (Next all path) start now) (sub : all.subset selected = .ok s)
    (separate : ∀ m ∈ now.drafts, FingerprintsSeparate m.disk s now.disk s)
    (hydrated : hydrate now.disk (.file path) (Graph.new s) = .ok (true, miss, g)) :
    ∃ m ∈ now.drafts, m.build ∈ now.builds ∧ g.elements = m.build.graph.elements ∧
      Compiles m.build.disk all selected g.elements ∧
      (∀ r ∈ s.members, r.tree m.disk = r.tree now.disk) ∧
      (Compiles now.disk all selected g.elements ↔ Compiles m.disk all selected g.elements) ∧
      ((∀ r ∈ s.members, r.tree m.build.disk = r.tree m.disk) →
        Compiles now.disk all selected g.elements) := by
  have sound := Scene.provenance_of_steps blank steps
  obtain ⟨content, there, read⟩ := file_of_hit hydrated
  obtain ⟨m, member, rfl⟩ := sound.file content there
  obtain ⟨built, drafted⟩ := sound.drafts m member
  obtain ⟨chosen, s', sub', rebuilt⟩ := sound.builds m.build built
  obtain ⟨elements, current, current', known, known', same⟩ :=
    served_of_draft drafted rebuilt read hydrated
  have names := RepositorySet.names_eq_of_samePrints known known' same
  have closure : ∀ name, name ∈ all.closure chosen ↔ name ∈ all.closure selected := by
    intro name
    rw [← RepositorySet.mem_names_subset sub', ← RepositorySet.mem_names_subset sub, names]
  cases RepositorySet.subset_eq_of_closure sub' sub closure
  have trees : ∀ r ∈ s.members, r.tree m.disk = r.tree now.disk := by
    intro r inside
    obtain ⟨print, printed, printed'⟩ :=
      RepositorySet.fingerprint_of_samePrints known known' same inside inside rfl
    exact separate m member r inside r inside rfl print printed printed'
  have compiled : Compiles m.build.disk all selected g.elements :=
    (Preparation.compiles_iff_rebuilt sub).mpr ⟨m.build.graph, rebuilt, elements.symm⟩
  refine ⟨m, member, built, elements, compiled, trees, ?_, fun untouched => ?_⟩
  · exact ⟨Preparation.compiles_of_tree sub fun r inside => (trees r inside).symm,
      Preparation.compiles_of_tree sub trees⟩
  · exact Preparation.compiles_of_tree sub
      (fun r inside => (untouched r inside).trans (trees r inside)) compiled

attribute [local instance] SetOrder.asWritten in
/-- A snapshot of the small source tree that is stored only after an edit is served, although
compiling the sources gives its elements neither now nor when the fingerprints were taken. -/
theorem served_late : ∃ now g,
    Relation.ReflTransGen (Next Sample.repositories Sample.snapshotPath)
      ⟨Sample.disk, [], []⟩ now ∧
    hydrate now.disk (.file Sample.snapshotPath) (Graph.new Sample.repositories) =
      .ok (true, Option.none, g) ∧
    ∃ m ∈ now.drafts,
      Compiles m.build.disk Sample.repositories ["platform", "q"] g.elements ∧
      ¬ Compiles m.disk Sample.repositories ["platform", "q"] g.elements ∧
      ¬ Compiles now.disk Sample.repositories ["platform", "q"] g.elements := by
  obtain ⟨g₀, text, alike, stored, steps⟩ := Sample.steps_late
  obtain ⟨g, hydrated, elements⟩ := Sample.hydrate_late alike stored
  have nothing : Sample.disk.entry? (Sample.disk.place Sample.snapshotPath) = Option.none := by
    decide
  have blank : Scene.Initial Sample.snapshotPath ⟨Sample.disk, [], []⟩ :=
    ⟨rfl, rfl, fun content there => nomatch nothing.symm.trans there⟩
  have outdated : ¬ Compiles Sample.lateStored.disk Sample.repositories
      ["platform", "q"] g.elements := by
    rw [elements]
    exact Sample.not_compiles_late
  have separate : ∀ m ∈ [(⟨⟨Sample.disk, g₀⟩, Sample.edited, text⟩ : Draft)],
      FingerprintsSeparate m.disk Sample.repositories Sample.lateStored.disk
        Sample.repositories := by
    intro m member r inside r' inside' name _ _ _
    rw [List.mem_singleton.mp member,
      Keyed.eq_of_key_eq Sample.repositories.ascending inside' inside name.symm]
    exact Sample.tree_lateStored r inside
  obtain ⟨m, member, -, -, compiled, -, current, -⟩ := current_of_served blank steps
    Sample.subset_repositories separate hydrated
  exact ⟨_, g, steps, hydrated, m, member, compiled, fun before => outdated (current.mpr before),
    outdated⟩

end Cache

end ModelForge
